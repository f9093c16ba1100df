import StudioRental.Address.Idna.Mapping
import StudioRental.Address.Idna.Properties
import StudioRental.Address.Idna.Punycode

/-!
Unicode IDNA compatibility processing (UTS 46) of a domain name, as URLs do it: nontransitional,
with joiner and bidirectional checks, without hyphen or length checks, and with the ASCII
characters that cannot stand in a URL host denied.

Each code point is mapped by its run in the mapping table, and the result is split into labels
at `.`. A label `xn--...` must be ASCII and decode as Punycode to a label that is not empty and
not all ASCII, is in NFC, does not itself start with `xn--`, and holds only code points mapping
keeps. Every nonempty label must not start with a combining mark, must hold no disallowed code
point, and may hold a zero-width joiner only after a virama, and a zero-width non-joiner only
after a virama or between a left- or dual-joining and a right- or dual-joining character (with
transparent ones around it). When some label holds a right-to-left character or an Arabic digit,
every nonempty label must follow the bidirectional rules: it starts with a left-to-right or a
right-to-left character, holds only the classes its direction allows, ends in a strong
character or a digit (then nonspacing marks), and a right-to-left label does not mix European
and Arabic digits.
-/

namespace StudioRental

namespace Idna

/-- What mapping makes of a character. -/
def mapChar (c : Char) : List Char :=
  match runOf c.toNat with
  | (_, .valid) => [c]
  | (_, .disallowed) => [c]
  | (_, .deviation) => [c]
  | (_, .ignored) => []
  | (_, .mapped points) => points.map Char.ofNat
  | (_, .shifted delta) => [Char.ofNat (c.toNat + delta).toNat]
  | (start, .alternating delta) =>
    if (c.toNat - start) % 2 == 0 then [Char.ofNat (c.toNat + delta).toNat] else [c]

/-- Whether mapping keeps a character and a label may hold it. -/
def allowed (c : Char) : Bool :=
  match runOf c.toNat with
  | (_, .valid) => true
  | (_, .deviation) => true
  | (start, .alternating _) => (c.toNat - start) % 2 == 1
  | _ => false

/-- Whether an ASCII character cannot stand in a URL host. -/
def denied (c : Char) : Bool :=
  c.toNat ≤ 32 || c.toNat == 127 || "%#/:<>?@[\\]^|".toList.contains c

/-- The zero-width non-joiner. -/
def nonJoiner : Char := Char.ofNat 0x200C

/-- The zero-width joiner. -/
def joiner : Char := Char.ofNat 0x200D

/-- Whether a joiner with `before` before it (nearest first) and `after` after it may stand
there. -/
def joinerFits (c : Char) (before after : List Char) : Bool :=
  if (before.head?.map isVirama).getD false then true
  else if c == joiner then false
  else
    let left := (before.dropWhile (joiningType · == .transparent)).head?.map joiningType
    let right := (after.dropWhile (joiningType · == .transparent)).head?.map joiningType
    (left == some .left || left == some .dual) && (right == some .right || right == some .dual)

/-- Whether every joiner of a label fits where it stands; `before` holds the characters read so
far, nearest first. -/
def joinersFit : List Char → List Char → Bool
  | _, [] => true
  | before, c :: rest =>
    (!(c == joiner || c == nonJoiner) || joinerFits c before rest) && joinersFit (c :: before) rest

/-- Whether a label begins with `xn--`. -/
def hasAcePrefix (label : List Char) : Bool :=
  label.take 4 == ['x', 'n', '-', '-']

/-- The checks every nonempty label must pass; `decoded` tells whether it came from Punycode,
which must also be in NFC, not begin with `xn--`, and hold only characters mapping keeps. -/
def labelFits (decoded : Bool) (label : List Char) : Bool :=
  label.isEmpty ||
    ((!decoded || (!label.any neverNfc && !hasAcePrefix label)) &&
      !(label.head?.map isMark).getD false &&
      label.all allowed &&
      joinersFit [] label)

/-- Whether a bidirectional class is right-to-left. -/
def isRtl (b : BidiClass) : Bool := b == .r || b == .al

/-- Whether a label follows the bidirectional rules. -/
def bidiFits (label : List Char) : Bool :=
  let classes := label.map bidiClass
  let last := (classes.reverse.dropWhile (· == .nsm)).head?
  match classes.head? with
  | none => true
  | some first =>
    if isRtl first then
      classes.all (fun b => b != .l) &&
        (last == some .r || last == some .al || last == some .en || last == some .an) &&
        !(classes.contains .en && classes.contains .an)
    else if first == .l then
      classes.all (fun b => !(isRtl b || b == .an)) && (last == some .l || last == some .en)
    else false

/-- A label after the checks, decoded when it was written in Punycode; none when it fails. -/
def checkLabel (label : List Char) : Option (List Char) :=
  if hasAcePrefix label then
    let code := label.drop 4
    if code.any (128 ≤ ·.toNat) then none
    else
      match Punycode.decode code with
      | none => none
      | some decoded =>
        if decoded.isEmpty || decoded.all (·.toNat < 128) then none
        else if labelFits true decoded then some decoded else none
  else if labelFits false label then some label else none

/-- Process a domain name: the name after mapping, with labels that are not ASCII left in their
Unicode form; none when the name is not a valid international domain name. -/
def process (domain : List Char) : Option (List Char) := do
  let mapped := domain.flatMap mapChar
  if mapped.any fun c => c.toNat < 128 && denied c then none
  let labels ← (mapped.splitOn '.').mapM checkLabel
  let bidiDomain := labels.any fun l => l.any fun c =>
    let b := bidiClass c
    isRtl b || b == .an
  if bidiDomain && !labels.all bidiFits then none
  return mapped

end Idna

end StudioRental
