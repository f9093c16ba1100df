/-!
Media types (`type/subtype; name=value`) and the two request body types the service reads.

A media type reads when its type is a non-empty run of token characters, then `/`, then a
subtype of token characters; the last `+` after the subtype's first character starts a suffix.
Parameters follow a `;`: each is optional spaces, a name of token characters, `=`, and a value
that is either token characters (possibly none, at the end) or a quoted run of visible
characters ending at a quote that is not the first one. After a quoted value only spaces may
come before the next `;`. Type and subtype compare without regard to case.

* JSON bodies need the type `application` with the subtype `json` or the suffix `json`.
* Form bodies need a content type that starts with `application/x-www-form-urlencoded`.
-/

namespace StudioRental

namespace Media

/-- Token characters: ASCII letters and digits and ``!#$%&'*+-.^_`|~``. -/
def isToken (c : Char) : Bool :=
  (c.toNat < 128 && c.isAlphanum) ||
    [33, 35, 36, 37, 38, 39, 42, 43, 45, 46, 94, 95, 96, 124, 126].contains c.toNat

/-- Where reading the parameters stands. -/
inductive ParamState where
  /-- Before a name; spaces are skipped. -/
  | start
  /-- Inside a name. -/
  | name
  /-- Right after `=`. -/
  | valueStart
  /-- Inside a value of token characters. -/
  | value
  /-- Inside a quoted value; `first` while no character was read. -/
  | quoted (first : Bool)
  /-- After a quoted value. -/
  | afterQuote

/-- Whether the parameters after a `;` read. -/
def paramsRead : ParamState → List Char → Bool
  | .start, [] => true
  | .start, c :: rest => if c = ' ' then paramsRead .start rest else isToken c && paramsRead .name rest
  | .name, [] => false
  | .name, c :: rest => if c = '=' then paramsRead .valueStart rest else isToken c && paramsRead .name rest
  | .valueStart, [] => true
  | .valueStart, c :: rest =>
    if c = '"' then paramsRead (.quoted true) rest else isToken c && paramsRead .value rest
  | .value, [] => true
  | .value, c :: rest => if c = ';' then paramsRead .start rest else isToken c && paramsRead .value rest
  | .quoted _, [] => false
  | .quoted first, c :: rest =>
    if c = '"' && !first then paramsRead .afterQuote rest
    else (c.toNat > 31 && c.toNat != 127) && paramsRead (.quoted false) rest
  | .afterQuote, [] => true
  | .afterQuote, c :: rest =>
    if c = ';' then paramsRead .start rest else c = ' ' && paramsRead .afterQuote rest

/-- Split a subtype at its last `+` after the first character. -/
def splitSuffix (sub : List Char) : List Char × Option (List Char) :=
  match sub with
  | [] => ([], none)
  | c :: rest =>
    match (rest.reverse.span (· != '+')) with
    | (_, []) => (sub, none)
    | (suffixRev, _ :: prefixRev) => (c :: prefixRev.reverse, some suffixRev.reverse)

/-- The lower-cased type, subtype and suffix of a media type, or `none` when it does not read. -/
def parse? (s : String) : Option (String × String × Option String) :=
  let cs := (s.toList.map Char.toLower)
  let ty := cs.takeWhile isToken
  match cs.drop ty.length with
  | '/' :: rest =>
    if ty.isEmpty then none
    else
      let sub := rest.takeWhile isToken
      let (subtype, suffix) := splitSuffix sub
      let ok := match rest.drop sub.length with
        | [] => true
        | ';' :: params => !sub.isEmpty && paramsRead .start params
        | _ => false
      if ok then some (String.ofList ty, String.ofList subtype, suffix.map String.ofList) else none
  | _ => none

/-- Whether a content type announces JSON. -/
def isJson (contentType : String) : Bool :=
  match parse? contentType with
  | some (ty, sub, suffix) => ty == "application" && (sub == "json" || suffix == some "json")
  | none => false

/-- Whether a content type announces a form. -/
def isForm (contentType : String) : Bool :=
  contentType.startsWith "application/x-www-form-urlencoded"

end Media

end StudioRental
