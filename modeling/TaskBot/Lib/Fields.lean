import Mathlib.Data.List.Basic

/-!
# Texts made of fields

A record written as its fields with a separator between them.

* `splitFields_intercalate`: fields that are free of the separator are read back;
* `byteSize_intercalate_cons`: in bytes of UTF-8, a record has those of its fields and
  one separator between each two.  A field of ASCII characters has as many bytes as
  characters.
-/

namespace Fields

/-- Characters of one byte. -/
def Ascii (l : List Char) : Prop := ∀ c ∈ l, c.utf8Size = 1

theorem Ascii.cons {c : Char} {l : List Char} (hc : c.utf8Size = 1) (hl : Ascii l) : Ascii (c :: l) := by
  intro d hd
  rcases List.mem_cons.mp hd with rfl | hd
  · exact hc
  · exact hl d hd

theorem Ascii.append {l l' : List Char} (hl : Ascii l) (hl' : Ascii l') : Ascii (l ++ l') := by
  intro c hc
  rcases List.mem_append.mp hc with hc | hc
  · exact hl c hc
  · exact hl' c hc

theorem byteSize_ofList {l : List Char} (h : Ascii l) : (String.ofList l).utf8ByteSize = l.length := by
  induction l with
  | nil => rfl
  | cons c l ih =>
    have hc : c.utf8Size = 1 := h c List.mem_cons_self
    have hl : Ascii l := fun d hd => h d (List.mem_cons_of_mem c hd)
    rw [String.ofList_cons, String.utf8ByteSize_append, String.utf8ByteSize_singleton, hc, ih hl,
      List.length_cons]
    omega

theorem byteSize_eq_length {s : String} (h : Ascii s.toList) : s.utf8ByteSize = s.toList.length := by
  rw [← byteSize_ofList h, String.ofList_toList]

theorem byteSize_intercalate_cons (sep s t : String) (l : List String) :
    (sep.intercalate (s :: t :: l)).utf8ByteSize =
      s.utf8ByteSize + sep.utf8ByteSize + (sep.intercalate (t :: l)).utf8ByteSize := by
  rw [String.intercalate_cons_cons, String.utf8ByteSize_append, String.utf8ByteSize_append]

theorem byteSize_intercalate_singleton (sep s : String) :
    (sep.intercalate [s]).utf8ByteSize = s.utf8ByteSize := by
  rw [String.intercalate_singleton]

/-! ## Splitting -/

/-- The parts of the text between the separators. -/
def splitFields (sep : Char) (text : String) : List String := (text.toList.splitOn sep).map String.ofList

/-- The separator does not occur in the text. -/
def Free (sep : Char) (text : String) : Prop := sep ∉ text.toList

instance (sep : Char) (text : String) : Decidable (Free sep text) := inferInstanceAs (Decidable (_ ∉ _))

/-- It occurs in none of the fields. -/
def AllFree (sep : Char) (fields : List String) : Prop := ∀ field ∈ fields, Free sep field

instance (sep : Char) (fields : List String) : Decidable (AllFree sep fields) :=
  inferInstanceAs (Decidable (∀ field ∈ fields, Free sep field))

theorem AllFree.nil {sep : Char} : AllFree sep [] := fun _ h => absurd h List.not_mem_nil

theorem AllFree.cons {sep : Char} {field : String} {fields : List String} (hfield : Free sep field)
    (hfields : AllFree sep fields) : AllFree sep (field :: fields) := by
  intro f hf
  rcases List.mem_cons.mp hf with rfl | hf
  · exact hfield
  · exact hfields f hf

/-- **Fields free of the separator are read back.** -/
theorem splitFields_intercalate {sep : Char} {fields : List String} (hfree : AllFree sep fields)
    (hne : fields ≠ []) : splitFields sep ((String.singleton sep).intercalate fields) = fields := by
  have hfree' : ∀ l ∈ fields.map String.toList, sep ∉ l := by
    intro l hl
    obtain ⟨field, hfield, rfl⟩ := List.mem_map.mp hl
    exact hfree field hfield
  have hne' : fields.map String.toList ≠ [] := fun h => hne (List.map_eq_nil_iff.mp h)
  unfold splitFields
  rw [String.toList_intercalate, String.toList_singleton, List.splitOn_intercalate sep hfree' hne',
    List.map_map]
  exact List.map_id'' (fun field => String.ofList_toList) fields

/-- Letters of one kind up to a letter of another tell both parts of a text. -/
theorem append_stop_inj {p : Char → Bool} {w w' l l' : List Char} {c : Char} (hw : ∀ d ∈ w, p d = true)
    (hw' : ∀ d ∈ w', p d = true) (hc : p c = false) (h : w ++ c :: l = w' ++ c :: l') : w = w' ∧ l = l' := by
  have htake : ∀ (w l : List Char), (∀ d ∈ w, p d = true) → (w ++ c :: l).takeWhile p = w := by
    intro w l hw
    rw [List.takeWhile_append_of_pos hw, List.takeWhile_cons_of_neg (by rw [hc]; decide), List.append_nil]
  have hstart : w = w' := by rw [← htake w l hw, h, htake w' l' hw']
  subst hstart
  exact ⟨rfl, (List.cons.inj (List.append_cancel_left h)).2⟩

/-! ## Numbers -/

theorem utf8Size_of_isDigit {c : Char} (h : c.isDigit = true) : c.utf8Size = 1 := by
  simp only [Char.isDigit, Bool.and_eq_true, decide_eq_true_eq] at h
  have hascii : c.val ≤ 0x7f := UInt32.le_trans h.2 (by decide)
  simp [Char.utf8Size, hascii]

theorem ascii_toDigits (n : Nat) : Ascii (Nat.toDigits 10 n) := fun _ hc =>
  utf8Size_of_isDigit (Nat.isDigit_of_mem_toDigits (by decide) (by decide) hc)

theorem toDigits_inj {m n : Nat} (h : Nat.toDigits 10 m = Nat.toDigits 10 n) : m = n := by
  rw [← Nat.ofDigitChars_ten_toDigits (n := m), h, Nat.ofDigitChars_ten_toDigits]

/-- A number up to a letter that is no digit is read back. -/
theorem toDigits_stop_inj {m n : Nat} {c : Char} {l l' : List Char} (hc : c.isDigit = false)
    (h : Nat.toDigits 10 m ++ c :: l = Nat.toDigits 10 n ++ c :: l') : m = n ∧ l = l' := by
  have hdigits : ∀ k : Nat, ∀ d ∈ Nat.toDigits 10 k, d.isDigit = true := fun _ _ hd =>
    Nat.isDigit_of_mem_toDigits (by decide) (by decide) hd
  obtain ⟨hnum, hrest⟩ := append_stop_inj (hdigits m) (hdigits n) hc h
  exact ⟨toDigits_inj hnum, hrest⟩

end Fields
