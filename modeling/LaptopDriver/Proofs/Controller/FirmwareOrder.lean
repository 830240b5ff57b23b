import LaptopDriver.Controller.Request
import Mathlib.Order.Defs.Unbundled

/-!
# Firmware versions as a strict weak order

The driver trusts one firmware less than another because its version comes first. So the order has to
be one, on whatever text a controller names: no version may come before itself, and neither coming
first nor being level with each other may depend on a third version in between.

`letter?` reads a version one byte at a time, with ASCII capitals as small letters, and the main
statement says everything in these terms. A version comes first if it has ended, or has the smaller
letter, at the first place where the two differ (`lt_iff_precedesAt`), and two versions are level if
they have the same letters at all 64 places that count (`incomparable_iff_alike`). Both are read off
the key by which the driver compares, which holds the letters (`getElem?_key`). To change the
case of a text, or what lies beyond the 64th byte, therefore changes no comparison; the first of these
is about characters and the key is about bytes, so the two are brought together character by character
(`map_foldCase_utf8EncodeChar`).
-/

namespace LaptopDriver.Controller

/-- Of two lists of bytes, the one that comes first has ended, or has the smaller byte, at the first
place where they differ. -/
theorem lt_iff_getElem?_lt {first second : List UInt8} :
    first < second ↔ ∃ i : Nat, (∀ j < i, first[j]? = second[j]?) ∧
      ∃ y ∈ second[i]?, ∀ x ∈ first[i]?, x < y := by
  induction first generalizing second with
  | nil =>
    cases second with
    | nil => simp
    | cons y ys => exact iff_of_true (List.nil_lt_cons y ys) ⟨0, by simp⟩
  | cons x xs ih =>
    cases second with
    | nil => simp
    | cons y ys =>
      rw [List.cons_lt_cons_iff, ih]
      constructor
      · rintro (hlt | ⟨rfl, i, hsame, hplace⟩)
        · exact ⟨0, by simpa using hlt⟩
        · refine ⟨i + 1, fun j hj ↦ ?_, by simpa using hplace⟩
          cases j with
          | zero => rfl
          | succ j => exact hsame j (Nat.lt_of_succ_lt_succ hj)
      · rintro ⟨i, hsame, hplace⟩
        cases i with
        | zero => exact .inl (by simpa using hplace)
        | succ i =>
          have hhead : x = y := Option.some.inj (hsame 0 (Nat.zero_lt_succ i))
          have htail : ∀ j < i, xs[j]? = ys[j]? := fun j hj ↦ hsame (j + 1) (Nat.succ_lt_succ hj)
          exact .inr ⟨hhead, i, htail, by simpa using hplace⟩

namespace FirmwareVersion

/-! ### Capitals and small letters -/

theorem toLower_of_capital {c : Char} (h : c.val ≥ 'A'.val ∧ c.val ≤ 'Z'.val) :
    c.toLower.val = c.val + 32 :=
  congrArg Char.val (dif_pos h)

theorem toLower_of_not_capital {c : Char} (h : ¬(c.val ≥ 'A'.val ∧ c.val ≤ 'Z'.val)) :
    c.toLower = c :=
  dif_neg h

theorem toList_toLower (text : String) : text.toLower.toList = text.toList.map Char.toLower :=
  String.toList_map

/-- The capitals of ASCII are the same among bytes as among characters. -/
theorem capital_ofUInt8_iff (byte : UInt8) :
    (Char.ofUInt8 byte).val ≥ 'A'.val ∧ (Char.ofUInt8 byte).val ≤ 'Z'.val ↔
      0x41 ≤ byte ∧ byte ≤ 0x5A := by
  have hval : (Char.ofUInt8 byte).val.toNat = byte.toNat := UInt8.toNat_toUInt32 byte
  simp only [ge_iff_le, UInt8.le_iff_toNat_le, UInt32.le_iff_toNat_le, hval]
  exact Iff.rfl

/-- A byte is folded as its character is put in lower case. -/
theorem toUInt8_toLower_ofUInt8 (byte : UInt8) :
    (Char.ofUInt8 byte).toLower.toUInt8 = foldCase byte := by
  rw [foldCase]
  by_cases h : 0x41 ≤ byte ∧ byte ≤ 0x5A
  · rw [if_pos h]
    calc (Char.ofUInt8 byte).toLower.val.toUInt8
        = (byte.toUInt32 + 32).toUInt8 :=
          congrArg UInt32.toUInt8 (toLower_of_capital ((capital_ofUInt8_iff byte).2 h))
      _ = byte + 0x20 := by rw [UInt32.toUInt8_add, UInt8.toUInt8_toUInt32]; rfl
  · rw [if_neg h, toLower_of_not_capital (mt (capital_ofUInt8_iff byte).1 h)]
    exact UInt8.toUInt8_toUInt32 byte

theorem foldCase_foldCase (byte : UInt8) : foldCase (foldCase byte) = foldCase byte := by
  by_cases h : 0x41 ≤ byte ∧ byte ≤ 0x5A
  · have hsmall : ¬(0x41 ≤ byte + 0x20 ∧ byte + 0x20 ≤ 0x5A) := by
      simp only [UInt8.le_iff_toNat_le, UInt8.toNat_add, UInt8.reduceToNat] at h ⊢
      omega
    have hfolded : foldCase byte = byte + 0x20 := if_pos h
    rw [hfolded]
    exact if_neg hsmall
  · have hfolded : foldCase byte = byte := if_neg h
    rw [hfolded, hfolded]

/-- Putting a character in lower case does not change its bytes, once they are folded. -/
theorem map_foldCase_utf8EncodeChar (c : Char) :
    (String.utf8EncodeChar c.toLower).map foldCase = (String.utf8EncodeChar c).map foldCase := by
  by_cases h : c.val ≥ 'A'.val ∧ c.val ≤ 'Z'.val
  · -- A capital has one byte, and so has its small letter, which is that byte folded.
    have hge : 65 ≤ c.val.toNat := UInt32.le_iff_toNat_le.1 h.1
    have hle : c.val.toNat ≤ 90 := UInt32.le_iff_toNat_le.1 h.2
    have hlower : c.toLower.val = c.val + 32 := toLower_of_capital h
    have hsize : c.utf8Size = 1 := by
      simp only [Char.utf8Size_eq_one_iff, UInt32.le_iff_toNat_le, UInt32.reduceToNat]
      omega
    have hsizeLower : c.toLower.utf8Size = 1 := by
      simp only [Char.utf8Size_eq_one_iff, hlower, UInt32.le_iff_toNat_le, UInt32.toNat_add,
        UInt32.reduceToNat]
      omega
    have hbyte : 0x41 ≤ c.val.toUInt8 ∧ c.val.toUInt8 ≤ 0x5A := by
      simp only [UInt8.le_iff_toNat_le, UInt32.toNat_toUInt8, UInt8.reduceToNat]
      omega
    have hfolded : foldCase c.val.toUInt8 = c.val.toUInt8 + 0x20 := if_pos hbyte
    rw [String.utf8EncodeChar_eq_singleton hsize, String.utf8EncodeChar_eq_singleton hsizeLower,
      hlower, UInt32.toUInt8_add, List.map_singleton, List.map_singleton]
    exact congrArg ([·]) ((congrArg foldCase hfolded.symm).trans (foldCase_foldCase _))
  · rw [toLower_of_not_capital h]

/-! ### Letters -/

/-- The text in UTF-8. -/
def bytes (v : FirmwareVersion) : List UInt8 :=
  v.text.toUTF8.data.toList

/-- The byte at a place of the text, as a small letter if it is a capital of ASCII; there is none
beyond the end. -/
def letter? (v : FirmwareVersion) (i : Nat) : Option UInt8 :=
  v.bytes[i]?.map fun byte ↦ (Char.ofUInt8 byte).toLower.toUInt8

/-- Two versions have the same letters at the 64 places that count. -/
def Alike (a b : FirmwareVersion) : Prop :=
  ∀ i < 64, a.letter? i = b.letter? i

/-- At a place, the first of two versions has ended or has the smaller letter. -/
def PrecedesAt (a b : FirmwareVersion) (i : Nat) : Prop :=
  ∃ y ∈ b.letter? i, ∀ x ∈ a.letter? i, x < y

variable {a b : FirmwareVersion}

/-- The key holds the letters at the places that count. -/
theorem getElem?_key (v : FirmwareVersion) (i : Nat) :
    v.key[i]? = if i < 64 then v.letter? i else none := by
  have hfold : foldCase = fun byte ↦ (Char.ofUInt8 byte).toLower.toUInt8 :=
    funext fun byte ↦ (toUInt8_toLower_ofUInt8 byte).symm
  rw [key, List.getElem?_map, List.getElem?_take, letter?, ← hfold]
  show Option.map foldCase (if i < 64 then v.bytes[i]? else none) = _
  split <;> rfl

theorem key_eq_key_iff : a.key = b.key ↔ a.Alike b := by
  rw [List.ext_getElem?_iff]
  refine forall_congr' fun i ↦ ?_
  rw [getElem?_key, getElem?_key]
  by_cases hi : i < 64
  · simp [hi]
  · simp [hi]

/-- A version comes first if it does so at the first place where the two differ. -/
theorem lt_iff_precedesAt :
    a < b ↔ ∃ i < 64, (∀ j < i, a.letter? j = b.letter? j) ∧ a.PrecedesAt b i := by
  rw [lt_iff_key_lt, lt_iff_getElem?_lt]
  refine exists_congr fun i ↦ ?_
  by_cases hi : i < 64
  · have hsame : (∀ j < i, a.key[j]? = b.key[j]?) ↔ ∀ j < i, a.letter? j = b.letter? j := by
      refine forall₂_congr fun j hj ↦ ?_
      have hj : j < 64 := Nat.lt_trans hj hi
      rw [getElem?_key, getElem?_key, if_pos hj, if_pos hj]
    rw [hsame, getElem?_key, getElem?_key, if_pos hi, if_pos hi, PrecedesAt]
    exact (and_iff_right hi).symm
  · rw [getElem?_key b, if_neg hi]
    simp [hi]

/-! ### The order -/

theorem lt_trans {first second third : FirmwareVersion} (h : first < second)
    (h' : second < third) : first < third := by
  rw [lt_iff_key_lt] at h h' ⊢
  exact List.lt_trans h h'

/-- Two versions of which neither comes first have the same letters. -/
theorem incomparable_iff_alike : ¬a < b ∧ ¬b < a ↔ a.Alike b := by
  rw [← key_eq_key_iff, lt_iff_key_lt, lt_iff_key_lt]
  constructor
  · rintro ⟨hnot, hnot'⟩
    exact List.le_antisymm (List.not_lt.1 hnot') (List.not_lt.1 hnot)
  · intro heq
    rw [heq]
    exact ⟨List.lt_irrefl _, List.lt_irrefl _⟩

theorem Alike.trans {c : FirmwareVersion} (h : a.Alike b) (h' : b.Alike c) : a.Alike c :=
  fun i hi ↦ (h i hi).trans (h' i hi)

/-- Versions with the same letters compare alike with any other one. -/
theorem Alike.lt_congr (h : a.Alike b) (other : FirmwareVersion) :
    (a < other ↔ b < other) ∧ (other < a ↔ other < b) := by
  have hkey : a.key = b.key := key_eq_key_iff.2 h
  simp only [lt_iff_key_lt, hkey, and_self]

/-! ### Changes of a text -/

/-- The bytes of a text are those of its characters. -/
theorem bytes_eq_flatMap (v : FirmwareVersion) :
    v.bytes = v.text.toList.flatMap String.utf8EncodeChar := by
  calc v.text.toUTF8.data.toList
      = (String.ofList v.text.toList).toUTF8.data.toList := by rw [String.ofList_toList]
    _ = (v.text.toList.flatMap String.utf8EncodeChar).toByteArray.data.toList := rfl
    _ = v.text.toList.flatMap String.utf8EncodeChar := by rw [List.data_toByteArray]

/-- Putting a text in lower case does not change its bytes, once they are folded. -/
theorem map_foldCase_bytes_toLower (v : FirmwareVersion) :
    (bytes ⟨v.text.toLower⟩).map foldCase = v.bytes.map foldCase := by
  rw [bytes_eq_flatMap, bytes_eq_flatMap, toList_toLower, List.map_flatMap, List.map_flatMap,
    List.flatMap_map]
  exact congrArg (List.flatMap · v.text.toList) (funext map_foldCase_utf8EncodeChar)

/-- Versions that differ in the case of ASCII letters only have the same letters. -/
theorem alike_of_toLower_eq (h : a.text.toLower = b.text.toLower) : a.Alike b := by
  have hfolded : a.bytes.map foldCase = b.bytes.map foldCase := by
    rw [← map_foldCase_bytes_toLower a, ← map_foldCase_bytes_toLower b, h]
  refine key_eq_key_iff.1 ?_
  show (a.bytes.take 64).map foldCase = (b.bytes.take 64).map foldCase
  rw [List.map_take, List.map_take, hfolded]

/-- Versions that differ beyond the 64th byte only have the same letters at the places that count. -/
theorem alike_of_take_eq (h : a.bytes.take 64 = b.bytes.take 64) : a.Alike b :=
  key_eq_key_iff.1 (congrArg (List.map foldCase) h)

/-- The order is a strict weak order on all texts. Two versions are incomparable exactly if they
have the same letters at the 64 places that count, and one comes first exactly if, at the first
place where the two differ, it has ended or has the smaller letter. A change of the case of ASCII
letters, or of anything beyond the 64th byte, changes no comparison. -/
theorem isStrictWeakOrder_lt :
    IsStrictWeakOrder FirmwareVersion (· < ·) ∧
    (∀ a b : FirmwareVersion, a < b → ¬b < a) ∧
    (∀ a b : FirmwareVersion, ¬a < b ∧ ¬b < a ↔ a.Alike b) ∧
    (∀ a b : FirmwareVersion, a < b ↔
      ∃ i < 64, (∀ j < i, a.letter? j = b.letter? j) ∧ a.PrecedesAt b i) ∧
    ∀ a b : FirmwareVersion,
      a.text.toLower = b.text.toLower ∨ a.bytes.take 64 = b.bytes.take 64 →
      ∀ other, (a < other ↔ b < other) ∧ (other < a ↔ other < b) := by
  have hirrefl (v : FirmwareVersion) : ¬v < v := List.lt_irrefl v.key
  have hincomparable (a b c : FirmwareVersion) (h : ¬a < b ∧ ¬b < a) (h' : ¬b < c ∧ ¬c < b) :
      ¬a < c ∧ ¬c < a :=
    incomparable_iff_alike.2 ((incomparable_iff_alike.1 h).trans (incomparable_iff_alike.1 h'))
  refine ⟨{ irrefl := hirrefl, trans := fun _ _ _ ↦ lt_trans, incomp_trans := hincomparable },
    fun a b h h' ↦ hirrefl a (lt_trans h h'), fun a b ↦ incomparable_iff_alike,
    fun a b ↦ lt_iff_precedesAt, fun a b h ↦ Alike.lt_congr ?_⟩
  exact h.elim alike_of_toLower_eq alike_of_take_eq

/-- The 64th byte may be the first of a character. It counts, and the rest of its character does
not: neither a capital before the cut nor another accent behind it changes the comparison. -/
theorem isStrictWeakOrder_lt_split_character :
    let version (letter : Char) (rest : List Char) : FirmwareVersion :=
      ⟨String.ofList (List.replicate 63 letter ++ rest)⟩
    (version 'A' ['é'] < version 'a' ['ā'] ↔ version 'a' ['è', 'b'] < version 'a' ['ā']) ∧
      version 'a' ['è', 'b'] < version 'a' ['ā'] := by
  intro version
  obtain ⟨-, -, -, hfirst, hcongr⟩ := isStrictWeakOrder_lt
  have hcase : (version 'A' ['é']).text.toLower = (version 'a' ['é']).text.toLower := by
    refine String.toList_inj.1 ?_
    rw [toList_toLower, toList_toLower, String.toList_ofList, String.toList_ofList]
    decide +kernel
  have hcut : (version 'a' ['é']).bytes.take 64 = (version 'a' ['è', 'b']).bytes.take 64 := by
    decide +kernel
  have hsmall := (hcongr _ _ (.inl hcase) (version 'a' ['ā'])).1
  have hbefore := (hcongr _ _ (.inr hcut) (version 'a' ['ā'])).1
  exact ⟨hsmall.trans hbefore, by decide +kernel⟩

end FirmwareVersion

end LaptopDriver.Controller
