import CatalogAudit.Text.Utf8
import Mathlib.Data.List.Basic
import Mathlib.Logic.Function.Basic

/-!
# Reading bytes as text

An encoded text is read as it was, so different texts have different bytes. Bytes that are no
encoded text are read with loss, but a character that takes one byte is read for that byte and for
no other, wherever it stands: what separates names in bytes separates them in what is read.
-/

namespace CatalogAudit.Text

/-- Texts are encoded one behind the other. -/
theorem encode_append (front back : List Char) :
    encode (front ++ back) = encode front ++ encode back := List.flatMap_append

/-- The bytes of a character that was read are passed. -/
theorem decodeFrom_length_append (more rest : List UInt8) :
    decodeFrom more.length (more ++ rest) = decodeFrom 0 rest := by
  induction more with
  | nil => rfl
  | cons b more ih => exact ih

/-- The bytes of a character are read as that character. -/
theorem decodeFirst_utf8EncodeChar {c : Char} {first : UInt8} {more : List UInt8}
    (encoded : String.utf8EncodeChar c = first :: more) (rest : List UInt8) :
    decodeFirst first (more ++ rest) = (c, more.length) := by
  have length : more.length + 1 = c.utf8Size := by
    rw [← String.length_utf8EncodeChar, encoded, List.length_cons]
  have short : more.length ≤ 3 := by
    have := c.utf8Size_le_four
    omega
  have read : (first :: (more ++ rest).take 3).toByteArray.utf8DecodeChar? 0 = some c := by
    rw [List.take_append, List.take_of_length_le short, ← List.cons_append, ← encoded,
      List.toByteArray_append]
    exact ByteArray.utf8DecodeChar?_utf8EncodeChar_append
  unfold decodeFirst
  rw [read]
  dsimp only
  rw [← length]
  rfl

/-- An encoded text is read as it was. -/
theorem decode_encode (text : List Char) : decode (encode text) = text := by
  induction text with
  | nil => rfl
  | cons c text ih =>
    obtain ⟨first, more, encoded⟩ : ∃ first more, String.utf8EncodeChar c = first :: more :=
      List.exists_cons_of_ne_nil String.utf8EncodeChar_ne_nil
    have bytes : encode (c :: text) = first :: (more ++ encode text) := by
      rw [encode, List.flatMap_cons, encoded]
      rfl
    rw [bytes, decode, decodeFrom, decodeFirst_utf8EncodeChar encoded]
    change c :: decodeFrom more.length (more ++ encode text) = _
    rw [decodeFrom_length_append]
    exact congrArg (c :: ·) ih

/-- Different texts have different bytes. -/
theorem encode_injective : Function.Injective encode :=
  Function.LeftInverse.injective decode_encode

/-- Bytes that are the encoding of a text. -/
def IsEncoded (bytes : List UInt8) : Prop := ∃ text, encode text = bytes

/-- Bytes encode a text when they are those of the text that they show. -/
theorem isEncoded_iff {bytes : List UInt8} : IsEncoded bytes ↔ encode (decode bytes) = bytes := by
  constructor
  · rintro ⟨text, rfl⟩
    rw [decode_encode]
  · exact fun same => ⟨_, same⟩

instance (bytes : List UInt8) : Decidable (IsEncoded bytes) :=
  decidable_of_iff _ isEncoded_iff.symm

/-- Among encoded texts nothing is lost. -/
theorem IsEncoded.eq_of_decode_eq {bytes other : List UInt8} (encoded : IsEncoded bytes)
    (encoded' : IsEncoded other) (same : decode bytes = decode other) : bytes = other := by
  obtain ⟨text, rfl⟩ := encoded
  obtain ⟨text', rfl⟩ := encoded'
  rw [decode_encode, decode_encode] at same
  rw [same]

/-- Names that encode texts are told apart by what they show. -/
theorem eq_of_map_decode_eq {names others : List (List UInt8)}
    (encoded : ∀ bytes ∈ names, IsEncoded bytes) (encoded' : ∀ bytes ∈ others, IsEncoded bytes)
    (same : names.map decode = others.map decode) : names = others := by
  induction names generalizing others with
  | nil => exact (List.map_eq_nil_iff.mp same.symm).symm
  | cons bytes names ih =>
    cases others with
    | nil => cases same
    | cons bytes' others =>
      rw [List.forall_mem_cons] at encoded encoded'
      obtain ⟨here, there⟩ := List.cons.inj same
      rw [encoded.1.eq_of_decode_eq encoded'.1 here, ih encoded.2 encoded'.2 there]

/-! ## Characters of one byte -/

variable {c : Char} {b first : UInt8} {rest bytes : List UInt8}

/-- A character of one byte is read at the beginning for that byte and for no other. -/
theorem decodeFirst_eq_iff (single : String.utf8EncodeChar c = [b]) :
    (decodeFirst first rest).1 = c ↔ first = b := by
  constructor
  · intro same
    unfold decodeFirst at same
    split at same
    · rename_i c' read
      obtain rfl : c' = c := same
      obtain ⟨behind, split⟩ := ByteArray.exists_of_utf8DecodeChar?_eq_some read
      rw [single] at split
      have bytes := congrArg (fun bytes : ByteArray => bytes.data.toList) split
      simp only [ByteArray.data_append, List.data_toByteArray, Array.toList_append] at bytes
      exact (List.cons.inj bytes).1
    · obtain rfl : replacement = c := same
      cases single
  · rintro rfl
    exact congrArg Prod.fst (decodeFirst_utf8EncodeChar single rest)

/-- The byte of a character is in the encoding of no other. -/
theorem eq_of_mem_utf8EncodeChar (single : String.utf8EncodeChar c = [b]) {d : Char}
    (member : b ∈ String.utf8EncodeChar d) : d = c := by
  have low : b.toNat < 128 := by
    have one := congrArg List.length single
    unfold String.utf8EncodeChar at single one
    dsimp only at single one
    split at one
    · rename_i small
      rw [if_pos small] at single
      obtain rfl := (List.cons.inj single).1.symm
      rw [UInt8.toNat_ofNat']
      omega
    · split at one
      · cases one
      · split at one <;> cases one
  have alone : String.utf8EncodeChar d = [b] := by
    unfold String.utf8EncodeChar at member ⊢
    dsimp only at member ⊢
    split at member
    · rename_i small
      rw [if_pos small]
      rw [List.mem_singleton.mp member]
    · -- Every byte of a longer encoding has its highest bit set.
      exfalso
      have high : ∀ m : ℕ, 128 ≤ m → m < 256 → b = UInt8.ofNat m → False := by
        intro m above below same
        rw [same, UInt8.toNat_ofNat'] at low
        omega
      split at member
      · simp only [List.mem_cons, List.not_mem_nil, or_false] at member
        rcases member with same | same <;> exact high _ (by omega) (by omega) same
      · split at member <;> simp only [List.mem_cons, List.not_mem_nil, or_false] at member
        · rcases member with same | same | same <;> exact high _ (by omega) (by omega) same
        · rcases member with same | same | same | same <;>
            exact high _ (by omega) (by omega) same
  have same : encode [d] = encode [c] := by simp [encode, alone, single]
  exact List.singleton_inj.mp (encode_injective same)

/-- The byte of an ASCII character stands for nothing else. -/
theorem mem_encode_iff (single : String.utf8EncodeChar c = [b]) {text : List Char} :
    b ∈ encode text ↔ c ∈ text := by
  rw [encode, List.mem_flatMap]
  constructor
  · rintro ⟨d, inside, member⟩
    exact eq_of_mem_utf8EncodeChar single member ▸ inside
  · intro inside
    exact ⟨c, inside, by simp [single]⟩

/-- An ASCII character that is shown has its byte in the name. -/
theorem mem_of_mem_decodeFrom (single : String.utf8EncodeChar c = [b]) {skip : ℕ}
    (member : c ∈ decodeFrom skip bytes) : b ∈ bytes := by
  induction bytes generalizing skip with
  | nil => cases skip <;> cases member
  | cons first rest ih =>
    cases skip with
    | succ skip => exact List.mem_cons_of_mem _ (ih member)
    | zero =>
      rcases List.mem_cons.mp member with here | later
      · exact List.mem_cons.mpr (.inl ((decodeFirst_eq_iff single).mp here.symm).symm)
      · exact List.mem_cons_of_mem _ (ih later)

/-- A character of one byte is read only where that byte stands. -/
theorem mem_of_mem_decode (single : String.utf8EncodeChar c = [b]) (member : c ∈ decode bytes) :
    b ∈ bytes := mem_of_mem_decodeFrom single member

/-- Only without bytes nothing is shown. -/
theorem decode_eq_nil_iff : decode bytes = [] ↔ bytes = [] := by
  cases bytes with
  | nil => exact ⟨fun _ => rfl, fun _ => rfl⟩
  | cons first rest => exact ⟨nofun, nofun⟩

end CatalogAudit.Text
