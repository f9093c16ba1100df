import StudioRental.Proofs.Journal.Replay
import StudioRental.Proofs.Time.Text
import StudioRental.Proofs.Money.Text
import StudioRental.Proofs.Text.Map

/-!
The binary layout read back.

A reader reads a value from some bytes when it gives the value and the position after them
wherever the bytes stand, after any bytes and before any (`Decoder.Reads`); in a string of fewer
than `2 ^ 64` bytes, since lengths are written in eight bytes. Reading composes: a reader followed
by a reader that depends on what the first gave reads the two values' bytes one after the other
(`Decoder.Reads.bind`). Each part of the layout reads back as what it was written from:
numbers of their width, text, optional values, variants, maps in key order, and the fields
written as text (identifiers, instants and amounts) when they read back from their text.

So a booking or an intent whose fields are in range reads back from its layout, and an event of
either reads back from its frame once its layout fits the frame's four-byte length
(`Event.readable_of_inRange`).
-/

namespace StudioRental

namespace Decoder

variable {α β : Type}

/-- `d` reads `x` from `bytes` wherever they stand in a string of fewer than `2 ^ 64` bytes. -/
def Reads (d : Decoder α) (bytes : ByteArray) (x : α) : Prop :=
  ∀ pre rest : ByteArray, (pre ++ bytes ++ rest).size < 2 ^ 64 →
    d (pre ++ bytes ++ rest) pre.size = some (x, pre.size + bytes.size)

theorem bind_apply (m : Decoder α) (f : α → Decoder β) (b : ByteArray) (p : Nat) :
    (m >>= f) b p = match m b p with
      | some (a, p') => f a b p'
      | none => none := rfl

theorem Reads.pure (x : α) : (Pure.pure x : Decoder α).Reads ByteArray.empty x := by
  intro pre rest _
  simp only [ByteArray.size_empty, Nat.add_zero]
  rfl

theorem Reads.bind {m : Decoder α} {f : α → Decoder β} {b₁ b₂ : ByteArray} {a : α} {x : β}
    (hm : m.Reads b₁ a) (hf : (f a).Reads b₂ x) : (m >>= f).Reads (b₁ ++ b₂) x := by
  intro pre rest hsize
  have hsplit : pre ++ (b₁ ++ b₂) ++ rest = pre ++ b₁ ++ (b₂ ++ rest) := by
    simp only [ByteArray.append_assoc]
  have hjoin : pre ++ (b₁ ++ b₂) ++ rest = pre ++ b₁ ++ b₂ ++ rest := by
    simp only [ByteArray.append_assoc]
  rw [bind_apply, hsplit, hm pre (b₂ ++ rest) (hsplit ▸ hsize)]
  dsimp only
  rw [← hsplit, hjoin, ← ByteArray.size_append, hf (pre ++ b₁) rest (hjoin ▸ hsize)]
  simp only [ByteArray.size_append, Nat.add_assoc]

theorem Reads.bind_empty {m : Decoder α} {f : α → Decoder β} {b : ByteArray} {a : α} {x : β}
    (hm : m.Reads b a) (hf : (f a).Reads ByteArray.empty x) : (m >>= f).Reads b x := by
  have := hm.bind hf
  rwa [ByteArray.append_empty] at this

theorem Reads.map {m : Decoder α} {b : ByteArray} {a : α} (hm : m.Reads b a) {f : α → β} {x : β}
    (hx : f a = x) : (m >>= fun a => Pure.pure (f a)).Reads b x :=
  hm.bind_empty (hx ▸ Reads.pure (f a))

theorem Reads.bind_ofOption {m : Decoder α} {b : ByteArray} {a : α} (hm : m.Reads b a)
    {f : α → Option β} {x : β} (hx : f a = some x) :
    (m >>= fun a => Decoder.ofOption (f a)).Reads b x := by
  refine hm.bind_empty ?_
  show (Decoder.ofOption (f a)).Reads ByteArray.empty x
  rw [hx]
  exact Reads.pure x

theorem Reads.take {bytes : ByteArray} {n : Nat} (h : bytes.size = n) :
    (Decoder.take n).Reads bytes bytes := by
  intro pre rest _
  have hcut := @ByteArray.extract_append_size_add pre (bytes ++ rest) 0 bytes.size
  rw [Nat.add_zero] at hcut
  subst h
  rw [Decoder.take, if_pos (by simp only [ByteArray.size_append]; omega), ByteArray.append_assoc,
    hcut, ByteArray.extract_append_eq_left rfl]

theorem Reads.unsigned (n v : Nat) :
    (Decoder.unsigned n).Reads (Binary.littleEndian n v) (v % 256 ^ n) :=
  (Reads.take (Binary.size_littleEndian n v)).map (Binary.valueOf_littleEndian n v)

theorem Reads.unsigned_of_lt {n v : Nat} (h : v < 256 ^ n) :
    (Decoder.unsigned n).Reads (Binary.littleEndian n v) v := by
  have := Reads.unsigned n v
  rwa [Nat.mod_eq_of_lt h] at this

theorem Reads.i64 {v : Int} (h₁ : -2 ^ 63 ≤ v) (h₂ : v < 2 ^ 63) :
    Decoder.i64.Reads (Binary.i64 v) v :=
  (Reads.unsigned 8 _).map (by split <;> omega)

theorem size_le_of_append (pre bytes rest : ByteArray) : bytes.size ≤ (pre ++ bytes ++ rest).size := by
  simp only [ByteArray.size_append]
  omega

theorem size_text (s : String) : (Binary.text s).size = 8 + s.utf8ByteSize := by
  simp only [Binary.text, ByteArray.size_append, Binary.u64, Binary.size_littleEndian,
    String.toUTF8_eq_toByteArray, String.size_toByteArray]

theorem Reads.text (s : String) : Decoder.text.Reads (Binary.text s) s := by
  intro pre rest hsize
  have hlen : s.utf8ByteSize < 256 ^ 8 := by
    have hin := size_le_of_append pre (Binary.text s) rest
    rw [size_text] at hin
    omega
  have hbytes : (Decoder.take s.utf8ByteSize >>= fun b => Decoder.ofOption (String.fromUTF8? b)).Reads
      s.toUTF8 s :=
    (Reads.take rfl).bind_ofOption (by rw [String.fromUTF8?, dif_pos s.isValidUTF8]; rfl)
  exact (Reads.unsigned_of_lt hlen).bind hbytes pre rest hsize

theorem Reads.option {d : Decoder α} {enc : α → ByteArray} {o : Option α}
    (h : ∀ a ∈ o, d.Reads (enc a) a) : (Decoder.option d).Reads (Binary.option enc o) o := by
  unfold Decoder.option
  cases o with
  | none =>
    rw [show Binary.option enc none = ⟨#[0]⟩ ++ ByteArray.empty from rfl]
    exact (Reads.unsigned_of_lt (v := 0) (by decide)).bind (Reads.pure none)
  | some a => exact (Reads.unsigned_of_lt (v := 1) (by decide)).bind ((h a rfl).map rfl)

theorem Reads.variant {ofIndex? : Nat → Option α} {a : α} {i : Nat} (hi : i < 2 ^ 32)
    (ha : ofIndex? i = some a) : (Decoder.variant ofIndex?).Reads (Binary.u32 i) a :=
  (Reads.unsigned_of_lt (by simpa using hi)).bind_ofOption ha

/-- The entries of a map in the layout, each key's text followed by its value's. -/
def entryBytes (acc : ByteArray) (e : String × String) : ByteArray :=
  acc ++ Binary.text e.1 ++ Binary.text e.2

theorem foldl_entryBytes (m : List (String × String)) (init : ByteArray) :
    m.foldl entryBytes init = init ++ m.foldl entryBytes ByteArray.empty := by
  induction m generalizing init with
  | nil => simp [ByteArray.append_empty]
  | cons e m ih =>
    rw [List.foldl_cons, List.foldl_cons, ih, ih (entryBytes _ e)]
    simp only [entryBytes, ByteArray.empty_append, ByteArray.append_assoc]

theorem textMap_eq (m : TextMap) :
    Binary.textMap m = Binary.u64 m.length ++ m.foldl entryBytes ByteArray.empty := by
  rw [← foldl_entryBytes]
  rfl

theorem Reads.entries (m : List (String × String)) :
    (Decoder.entries m.length).Reads (m.foldl entryBytes ByteArray.empty) m := by
  induction m with
  | nil => exact Reads.pure []
  | cons e m ih =>
    rw [List.foldl_cons, foldl_entryBytes]
    simp only [entryBytes, ByteArray.empty_append, ByteArray.append_assoc]
    exact (Reads.text e.1).bind ((Reads.text e.2).bind (ih.map rfl))

theorem length_le_size_entries (m : List (String × String)) :
    m.length ≤ (m.foldl entryBytes ByteArray.empty).size := by
  induction m with
  | nil => simp
  | cons e m ih =>
    rw [List.foldl_cons, foldl_entryBytes, ByteArray.size_append]
    simp only [entryBytes, ByteArray.size_append, size_text, List.length_cons]
    omega

/-- A map whose keys increase reads back as itself: entering its entries in order rebuilds it. -/
theorem Reads.textMap {m : TextMap} (h : m.Ordered) : Decoder.textMap.Reads (Binary.textMap m) m := by
  intro pre rest hsize
  rw [textMap_eq] at hsize ⊢
  have hlen : m.length < 256 ^ 8 := by
    have hin := size_le_of_append pre (Binary.u64 m.length ++ m.foldl entryBytes .empty) rest
    rw [ByteArray.size_append] at hin
    have := length_le_size_entries m
    omega
  have hlist : TextMap.ofList m = m :=
    (TextMap.foldl_insert_ordered m [] (by simpa using h)).trans (List.nil_append m)
  exact (Reads.unsigned_of_lt hlen).bind ((Reads.entries m).map hlist) pre rest hsize

theorem Reads.ulid (u : Ulid) : Decoder.ulid.Reads (Binary.text u.render) u :=
  (Reads.text _).bind_ofOption (Ulid.parse?_render u)

/-- An instant reads back from its text when it is in the supported range and proper. -/
theorem Reads.instant {t : Instant} (hr : t.inRange = true) (hp : t.Proper) :
    Decoder.instant.Reads (Binary.text t.render) t :=
  (Reads.text _).bind_ofOption (TimeText.parseInstant?_render hr hp)

/-- An amount reads back from its text unless it is a negative zero. -/
theorem Reads.decimal {d : Decimal} (hz : d.coeff = 0 → d.negative = false) :
    Decoder.decimal.Reads (Binary.text d.render) d :=
  (Reads.text _).bind_ofOption (Decimal.parse?_render hz)

theorem Reads.bookingStatus (s : BookingStatus) :
    (Decoder.variant BookingStatus.ofIndex?).Reads (Binary.u32 s.index) s :=
  Reads.variant (by cases s <;> decide) (by cases s <;> rfl)

theorem Reads.paymentState (s : PaymentState) :
    (Decoder.variant PaymentState.ofIndex?).Reads (Binary.u32 s.index) s :=
  Reads.variant (by cases s <;> decide) (by cases s <;> rfl)

theorem Reads.intentStatus (s : IntentStatus) :
    (Decoder.variant IntentStatus.ofIndex?).Reads (Binary.u32 s.index) s :=
  Reads.variant (by cases s <;> decide) (by cases s <;> rfl)

end Decoder

namespace Instant

instance : DecidablePred Proper := fun _ => inferInstanceAs (Decidable (_ ∨ _))

/-- An instant whose text reads back: in the supported range, with a fraction that reaches a
second only in a leap second. -/
def InRange (t : Instant) : Prop := t.inRange = true ∧ t.Proper

instance : DecidablePred InRange := fun _ => inferInstanceAs (Decidable (_ ∧ _))

end Instant

namespace Decimal

/-- An amount whose text reads back: a zero carries no sign. -/
def ZeroUnsigned (d : Decimal) : Prop := d.coeff = 0 → d.negative = false

instance : DecidablePred ZeroUnsigned := fun _ => inferInstanceAs (Decidable (_ → _))

end Decimal

namespace Booking

/-- A booking whose fields read back from their text: instants in range, amounts that are not
negative zeros. -/
def InRange (b : Booking) : Prop :=
  b.start.InRange ∧ b.stop.InRange ∧ b.totalPrice.ZeroUnsigned ∧ b.deposit.ZeroUnsigned ∧
    b.createdAt.InRange ∧ b.updatedAt.InRange

instance : DecidablePred InRange := fun _ => inferInstanceAs (Decidable (_ ∧ _))

end Booking

namespace Decoder

theorem Reads.booking {b : Booking} (h : b.InRange) : Decoder.booking.Reads b.encode b := by
  obtain ⟨⟨hsr, hsp⟩, ⟨htr, htp⟩, hprice, hdeposit, ⟨hcr, hcp⟩, ⟨hur, hup⟩⟩ := h
  simp only [Booking.encode, ByteArray.append_assoc]
  exact (Reads.ulid _).bind <| (Reads.ulid _).bind <| (Reads.ulid _).bind <| (Reads.ulid _).bind <|
    (Reads.instant hsr hsp).bind <| (Reads.instant htr htp).bind <|
    (Reads.decimal hprice).bind <| (Reads.decimal hdeposit).bind <|
    (Reads.bookingStatus _).bind <| (Reads.paymentState _).bind <|
    (Reads.option fun _ _ => Reads.text _).bind <| (Reads.option fun _ _ => Reads.text _).bind <|
    (Reads.instant hcr hcp).bind <| (Reads.instant hur hup).map rfl

end Decoder

namespace Intent

/-- An intent whose fields read back: an invoice number of 64 bits, an amount that is not a
negative zero, maps whose keys increase, and instants in range. -/
def InRange (i : Intent) : Prop :=
  invoiceMin ≤ i.invoice ∧ i.invoice ≤ invoiceMax ∧ i.amount.ZeroUnsigned ∧ i.shp.Ordered ∧
    (∀ m ∈ i.resultPayload, m.Ordered) ∧ (∀ m ∈ i.successPayload, m.Ordered) ∧
    (∀ t ∈ i.paidAt, t.InRange) ∧ i.createdAt.InRange ∧ i.updatedAt.InRange

instance : DecidablePred InRange := fun _ => inferInstanceAs (Decidable (_ ∧ _))

end Intent

namespace Decoder

theorem Reads.intent {i : Intent} (h : i.InRange) : Decoder.intent.Reads i.encode i := by
  obtain ⟨hlo, hhi, hamount, hshp, hresult, hsuccess, hpaid, ⟨hcr, hcp⟩, ⟨hur, hup⟩⟩ := h
  simp only [Intent.encode, ByteArray.append_assoc]
  exact (Reads.i64 (by simpa [invoiceMin] using hlo) (by simp [invoiceMax] at hhi; omega)).bind <|
    (Reads.ulid _).bind <| (Reads.decimal hamount).bind <| (Reads.text _).bind <|
    (Reads.textMap hshp).bind <| (Reads.intentStatus _).bind <| (Reads.text _).bind <|
    (Reads.option fun _ _ => Reads.text _).bind <|
    (Reads.option fun m hm => Reads.textMap (hresult m hm)).bind <|
    (Reads.option fun m hm => Reads.textMap (hsuccess m hm)).bind <|
    (Reads.option fun t ht => Reads.instant (hpaid t ht).1 (hpaid t ht).2).bind <|
    (Reads.instant hcr hcp).bind <| (Reads.instant hur hup).map rfl

end Decoder

namespace Event

/-- An event whose record's fields are in range. -/
def InRange : Event → Prop
  | bookingCreated b | bookingChanged b => b.InRange
  | intentCreated i | intentChanged i => i.InRange

instance : DecidablePred InRange := fun e => by
  cases e <;> unfold InRange <;> infer_instance

open Decoder in
theorem reads_encode {e : Event} (h : e.InRange) : Decoder.event.Reads e.encode e := by
  cases e with
  | bookingCreated b =>
    exact (Reads.unsigned_of_lt (v := 0) (by decide)).bind ((Reads.booking h).map rfl)
  | bookingChanged b =>
    exact (Reads.unsigned_of_lt (v := 1) (by decide)).bind ((Reads.booking h).map rfl)
  | intentCreated i =>
    exact (Reads.unsigned_of_lt (v := 2) (by decide)).bind ((Reads.intent h).map rfl)
  | intentChanged i =>
    exact (Reads.unsigned_of_lt (v := 3) (by decide)).bind ((Reads.intent h).map rfl)

/-- An event whose fields are in range decodes from its layout. -/
theorem decode_encode {e : Event} (h : e.InRange) (hsize : e.encode.size < 2 ^ 64) :
    Decoder.event.run e.encode = some e := by
  have := reads_encode h ByteArray.empty ByteArray.empty (by
    rwa [ByteArray.empty_append, ByteArray.append_empty])
  rw [ByteArray.empty_append, ByteArray.append_empty, ByteArray.size_empty] at this
  simp [Decoder.run, this]

/-- An event whose fields are in range reads back from its frame, once its layout fits the frame's
four-byte length. -/
theorem readable_of_inRange {e : Event} (h : e.InRange) (hsize : e.encode.size < 2 ^ 32) :
    e.Readable :=
  ⟨decode_encode h (Nat.lt_trans hsize (by decide)), hsize⟩

end Event

end StudioRental
