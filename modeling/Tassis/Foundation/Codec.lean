import Tassis.Foundation.Text

/-! # Self-delimiting codecs

Encodings of data as text from which the data can be read back, whatever text
follows. They are put together from a few combinators.
-/

namespace Tassis

/-- A way to write values as text and to read them from the front of a text. -/
structure Codec (α : Type) where
  encode : α → Text
  decode : Text → Option (α × Text)
  decode_encode : ∀ value rest, decode (encode value ++ rest) = some (value, rest)

namespace Codec

variable {α β : Type}

/-- Read a value that is not followed by anything. -/
def read (codec : Codec α) (text : Text) : Option α := (codec.decode text).map Prod.fst

theorem read_encode (codec : Codec α) (value : α) :
    codec.read (codec.encode value) = some value := by
  have decoded := codec.decode_encode value []
  rw [List.append_nil] at decoded
  rw [read, decoded]
  rfl

def decodeNat : Text → Option (Nat × Text)
  | '1' :: rest => (decodeNat rest).map fun decoded => (decoded.1 + 1, decoded.2)
  | '0' :: rest => some (0, rest)
  | _ => none

/-- Numbers in unary. -/
def nat : Codec Nat where
  encode value := List.replicate value '1' ++ ['0']
  decode := decodeNat
  decode_encode := by
    intro value rest
    induction value with
    | zero => rfl
    | succ value induction =>
        simp only [List.replicate_succ, List.cons_append, decodeNat, induction]
        rfl

/-- A text preceded by its length. -/
def text : Codec Text where
  encode value := nat.encode value.length ++ value
  decode source := (nat.decode source).map fun decoded =>
    (decoded.2.take decoded.1, decoded.2.drop decoded.1)
  decode_encode := by
    intro value rest
    rw [List.append_assoc, nat.decode_encode]
    simp

/-- One value after another. -/
def pair (first : Codec α) (second : Codec β) : Codec (α × β) where
  encode value := first.encode value.1 ++ second.encode value.2
  decode source := (first.decode source).bind fun decoded =>
    (second.decode decoded.2).map fun rest => ((decoded.1, rest.1), rest.2)
  decode_encode := by
    intro value rest
    rw [List.append_assoc, first.decode_encode, Option.bind_some, second.decode_encode]
    rfl

def option (codec : Codec α) : Codec (Option α) where
  encode
    | none => ['0']
    | some value => '1' :: codec.encode value
  decode
    | '0' :: rest => some (none, rest)
    | '1' :: rest => (codec.decode rest).map fun decoded => (some decoded.1, decoded.2)
    | _ => none
  decode_encode := by
    intro value rest
    cases value with
    | none => rfl
    | some value => simp [codec.decode_encode]

/-- Encode the values of a type as those of another. -/
def mapped (codec : Codec α) (into : β → α) (back : α → β)
    (inverse : ∀ value, back (into value) = value) : Codec β where
  encode value := codec.encode (into value)
  decode source := (codec.decode source).map fun decoded => (back decoded.1, decoded.2)
  decode_encode := by
    intro value rest
    rw [codec.decode_encode]
    simp [inverse]

def bool : Codec Bool :=
  (option nat).mapped (fun value => if value then some 0 else none) Option.isSome (by decide)

/-- Integers by sign and absolute value. -/
def int : Codec Int :=
  (pair bool nat).mapped (fun value => (decide (value < 0), value.natAbs))
    (fun parts => if parts.1 then -parts.2 else parts.2) (by
      intro value
      by_cases negative : value < 0
      · simp only [negative, decide_true, if_true]
        omega
      · simp only [negative, decide_false, Bool.false_eq_true, if_false]
        omega)

end Codec

end Tassis
