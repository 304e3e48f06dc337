import ChannelBinding.Table

/-!
# Messages

A message has an identity, headers and an opaque payload.  Stamping gives it a content type unless
it already carries one, and touches nothing else.
-/

namespace ChannelBinding

/-- The identity of a message: the number of messages built before it. -/
structure MessageId where
  number : Nat
deriving DecidableEq, Repr, Inhabited

/-- The header that carries the media type of the payload. -/
def contentTypeHeader : String := "content-type"

/-- The unit that channels carry. -/
structure Message where
  id : MessageId
  headers : Table String String := ∅
  payload : List UInt8 := []
deriving Repr, Inhabited

namespace Message

/-- The value of a header. -/
def header? (m : Message) (key : String) : Option String := m.headers.get? key

/-- The content type that a message carries. -/
def contentType? (m : Message) : Option String := m.header? contentTypeHeader

/-- The message with a header added if it is missing. -/
def withHeaderIfAbsent (m : Message) (key value : String) : Message :=
  if m.headers.contains key then m else { m with headers := m.headers.insert key value }

/-- The message as a channel with the given content type sends it on. -/
def stamp (m : Message) (contentType : Option String) : Message :=
  match contentType with
  | none => m
  | some t => m.withHeaderIfAbsent contentTypeHeader t

/-- Whether two messages have the same identity, the same headers and the same payload. -/
def same (a b : Message) : Bool :=
  a.id = b.id && a.payload = b.payload &&
    (a.headers.keys ++ b.headers.keys).all fun key => a.header? key = b.header? key

/-! ## Stamping -/

@[simp]
theorem stamp_id (m : Message) (t : Option String) :
  (m.stamp t).id = m.id
  := by
  cases t with
  | none => rfl
  | some t =>
    rw [stamp, withHeaderIfAbsent]
    split
    · rfl
    · rfl

@[simp]
theorem stamp_payload (m : Message) (t : Option String) :
  (m.stamp t).payload = m.payload
  := by
  cases t with
  | none => rfl
  | some t =>
    rw [stamp, withHeaderIfAbsent]
    split
    · rfl
    · rfl

/-- Stamping leaves every other header alone. -/
theorem header?_stamp_of_ne (m : Message) (t : Option String) {key : String}
    (h : key ≠ contentTypeHeader) :
  (m.stamp t).header? key = m.header? key
  := by
  cases t with
  | none => rfl
  | some t =>
    simp only [stamp, withHeaderIfAbsent]
    split
    · rfl
    · exact Table.get?_insert_of_ne _ _ (Ne.symm h)

/-- A content type already there stays; otherwise the stamp is the content type. -/
theorem contentType?_stamp (m : Message) (t : Option String) :
  (m.stamp t).contentType? = m.contentType?.or t
  := by
  cases t with
  | none => simp [stamp]
  | some t =>
    by_cases h : m.headers.contains contentTypeHeader
    · obtain ⟨v, hv⟩ := Option.isSome_iff_exists.1 h
      simp [stamp, withHeaderIfAbsent, h, contentType?, header?, hv]
    · have hn := Option.not_isSome_iff_eq_none.1 h
      simp [stamp, withHeaderIfAbsent, h, contentType?, header?, hn]

end Message

end ChannelBinding
