import Mathlib.Algebra.Group.Int.Defs
import Mathlib.Algebra.GroupWithZero.Nat
import Mathlib.Data.List.Basic
import Mathlib.Data.List.Infix
import TaskBot.Lib.Fields

/-!
# Shared vocabulary: errors, instants, identifiers, text

`AppError` with its constructors under the source's names, `Uuid` with its
hyphenated form, and the string functions of the standard library the domain
uses (`trim`, `charsCount`).
-/

namespace TaskBot

/-- `DateTime<Utc>`: nanoseconds since the epoch. -/
abbrev Instant := Int

/-- `NaiveDate`: days since the epoch. -/
abbrev NaiveDate := Int

/-- `DateTime::timestamp`: whole seconds, rounded down. -/
def Instant.timestamp (t : Instant) : Int := t.fdiv 1000000000

/-- `now.date_naive()`. -/
def Instant.utcDate (t : Instant) : NaiveDate := t.fdiv 86400000000000

/-! ## Errors -/

/-- The JSON values that occur as context of an error or in audit metadata. -/
inductive Json where
  | null
  | bool (b : Bool)
  | int (n : Int)
  | str (s : String)
  | strs (l : List String)
  /-- A `DateTime`, which is written as text. -/
  | instant (t : Instant)
deriving DecidableEq, Repr

def jsonInt (o : Option Int) : Json :=
  match o with
  | some n => .int n
  | none => .null

def jsonInstant (o : Option Instant) : Json :=
  match o with
  | some t => .instant t
  | none => .null

inductive ErrorKind where
  | validation | auth | notFound | conflict | rateLimit | network | timeout | internal
deriving DecidableEq, Repr

structure AppError where
  kind : ErrorKind
  code : String
  message : String
  context : List (String × Json)
deriving DecidableEq, Repr

abbrev AppResult := Except AppError

namespace AppError

def schemaValidation (code message : String) (context : List (String × Json)) : AppError :=
  ⟨.validation, code, message, context⟩

def businessRule (code message : String) (context : List (String × Json)) : AppError :=
  ⟨.validation, code, message, context⟩

def unauthenticated (message : String) (context : List (String × Json)) : AppError :=
  ⟨.auth, "UNAUTHENTICATED", message, context⟩

def unauthorized (message : String) (context : List (String × Json)) : AppError :=
  ⟨.auth, "UNAUTHORIZED", message, context⟩

def forbidden (code message : String) (context : List (String × Json)) : AppError :=
  ⟨.auth, code, message, context⟩

def notFound (code message : String) (context : List (String × Json)) : AppError :=
  ⟨.notFound, code, message, context⟩

def conflict (code message : String) (context : List (String × Json)) : AppError :=
  ⟨.conflict, code, message, context⟩

def network (code message : String) (context : List (String × Json)) : AppError :=
  ⟨.network, code, message, context⟩

def internal (code message : String) (context : List (String × Json)) : AppError :=
  ⟨.internal, code, message, context⟩

end AppError

/-- `ok_or_else`. -/
def okOrElse {α : Type} (o : Option α) (e : AppError) : AppResult α :=
  match o with
  | some a => .ok a
  | none => .error e

@[simp] theorem okOrElse_some {α : Type} (a : α) (e : AppError) : okOrElse (some a) e = .ok a := rfl

@[simp] theorem okOrElse_none {α : Type} (e : AppError) :
    okOrElse (none : Option α) e = .error e := rfl

theorem okOrElse_ok {α : Type} {o : Option α} {e : AppError} {a : α} (h : okOrElse o e = .ok a) :
    o = some a := by
  cases o with
  | none => cases h
  | some b =>
    cases h
    rfl

/-! ## Identifiers -/

structure Uuid where
  bytes : Vector UInt8 16
deriving DecidableEq, Repr

def hexDigit (n : Nat) : Char := if n < 10 then Char.ofNat (48 + n) else Char.ofNat (87 + n)

def hexByte (b : UInt8) : List Char := [hexDigit (b.toNat / 16), hexDigit (b.toNat % 16)]

def hexBytes (l : List UInt8) : List Char := l.flatMap hexByte

/-- `Display for Uuid`: lower-case hex in groups of 8-4-4-4-12. -/
def Uuid.hyphenated (u : Uuid) : List Char :=
  let b := u.bytes.toList
  hexBytes (b.take 4) ++ '-' :: hexBytes ((b.drop 4).take 2) ++ '-' :: hexBytes ((b.drop 6).take 2) ++
    '-' :: hexBytes ((b.drop 8).take 2) ++ '-' :: hexBytes (b.drop 10)

def Uuid.toText (u : Uuid) : String := String.ofList u.hyphenated

theorem hexDigit_inj : ∀ m < 16, ∀ n < 16, hexDigit m = hexDigit n → m = n := by decide

theorem hexByte_inj {a b : UInt8} (h : hexByte a = hexByte b) : a = b := by
  obtain ⟨hhigh, htail⟩ := List.cons.inj h
  have hlow := (List.cons.inj htail).1
  have ha := a.toNat_lt
  have hb := b.toNat_lt
  have h₁ := hexDigit_inj _ (by omega) _ (by omega) hhigh
  have h₂ := hexDigit_inj _ (by omega) _ (by omega) hlow
  exact UInt8.toNat_inj.mp (by omega)

theorem hexBytes_length (l : List UInt8) : (hexBytes l).length = 2 * l.length := by
  induction l with
  | nil => rfl
  | cons b l ih =>
    show (hexByte b ++ hexBytes l).length = 2 * (l.length + 1)
    rw [List.length_append, ih, hexByte, List.length_cons, List.length_singleton]
    omega

theorem hexBytes_inj {l l' : List UInt8} (hlen : l.length = l'.length) (h : hexBytes l = hexBytes l') :
    l = l' := by
  induction l generalizing l' with
  | nil => exact (List.length_eq_zero_iff.mp hlen.symm).symm
  | cons b l ih =>
    cases l' with
    | nil => cases hlen
    | cons b' l' =>
      obtain ⟨hb, hl⟩ := List.append_inj (show hexByte b ++ hexBytes l = hexByte b' ++ hexBytes l' from h) rfl
      rw [hexByte_inj hb, ih (Nat.succ.inj hlen) hl]

theorem Uuid.hyphenated_length (u : Uuid) : u.hyphenated.length = 36 := by
  have hlen : u.bytes.toList.length = 16 := u.bytes.length_toList
  unfold Uuid.hyphenated
  simp only [List.length_append, List.length_cons, hexBytes_length, List.length_take, List.length_drop, hlen]
  omega

theorem mem_hexBytes {l : List UInt8} {c : Char} (h : c ∈ hexBytes l) : ∃ n < 16, c = hexDigit n := by
  obtain ⟨b, -, hc⟩ := List.mem_flatMap.mp h
  have hb := b.toNat_lt
  rcases List.mem_cons.mp hc with rfl | hc
  · exact ⟨_, by omega, rfl⟩
  · exact ⟨_, by omega, List.mem_singleton.mp hc⟩

/-- Digits and dashes. -/
theorem Uuid.mem_hyphenated {u : Uuid} {c : Char} (h : c ∈ u.hyphenated) : c = '-' ∨ ∃ n < 16, c = hexDigit n := by
  unfold Uuid.hyphenated at h
  simp only [List.mem_append, List.mem_cons] at h
  rcases h with (((h | rfl | h) | rfl | h) | rfl | h) | rfl | h
  · exact .inr (mem_hexBytes h)
  · exact .inl rfl
  · exact .inr (mem_hexBytes h)
  · exact .inl rfl
  · exact .inr (mem_hexBytes h)
  · exact .inl rfl
  · exact .inr (mem_hexBytes h)
  · exact .inl rfl
  · exact .inr (mem_hexBytes h)

theorem ascii_hexBytes (l : List UInt8) : Fields.Ascii (hexBytes l) := by
  have hdigit : ∀ n < 16, (hexDigit n).utf8Size = 1 := by decide
  intro c hc
  obtain ⟨n, hn, rfl⟩ := mem_hexBytes hc
  exact hdigit n hn

theorem Uuid.ascii_hyphenated (u : Uuid) : Fields.Ascii u.hyphenated := by
  intro c hc
  have hdigit : ∀ n < 16, (hexDigit n).utf8Size = 1 := by decide
  rcases Uuid.mem_hyphenated hc with rfl | ⟨n, hn, rfl⟩
  · decide
  · exact hdigit n hn

/-- There is no colon in the text of an identifier. -/
theorem Uuid.toText_free (u : Uuid) : Fields.Free ':' u.toText := by
  have hdigit : ∀ n < 16, ':' ≠ hexDigit n := by decide
  intro hc
  rw [Uuid.toText, String.toList_ofList] at hc
  rcases Uuid.mem_hyphenated hc with hdash | ⟨n, hn, he⟩
  · exact absurd hdash (by decide)
  · exact hdigit n hn he

theorem Uuid.toText_byteSize (u : Uuid) : u.toText.utf8ByteSize = 36 := by
  rw [Uuid.toText, Fields.byteSize_ofList u.ascii_hyphenated, u.hyphenated_length]

/-- `Uuid::simple`: the digits without the dashes. -/
def Uuid.simple (u : Uuid) : String := String.ofList (hexBytes u.bytes.toList)

theorem Uuid.simple_byteSize (u : Uuid) : u.simple.utf8ByteSize = 32 := by
  have hlen : u.bytes.toList.length = 16 := u.bytes.length_toList
  rw [Uuid.simple, Fields.byteSize_ofList (ascii_hexBytes _), hexBytes_length, hlen]

/-- The groups of the text, put together again. -/
theorem groups_append (l : List UInt8) : l =
    l.take 4 ++ ((l.drop 4).take 2 ++ ((l.drop 6).take 2 ++ ((l.drop 8).take 2 ++ l.drop 10))) := by
  have h₁₀ : l.drop 10 = (l.drop 8).drop 2 := by rw [List.drop_drop]
  have h₈ : l.drop 8 = (l.drop 6).drop 2 := by rw [List.drop_drop]
  have h₆ : l.drop 6 = (l.drop 4).drop 2 := by rw [List.drop_drop]
  rw [h₁₀, List.take_append_drop, h₈, List.take_append_drop, h₆, List.take_append_drop,
    List.take_append_drop]

/-- Without its dashes the text is that of the bytes. -/
theorem Uuid.hyphenated_digits (u : Uuid) : u.hyphenated.filter (· ≠ '-') = hexBytes u.bytes.toList := by
  have hdigits : ∀ l : List UInt8, (hexBytes l).filter (· ≠ '-') = hexBytes l := by
    intro l
    rw [List.filter_eq_self]
    intro c hc
    have hdash : ∀ n < 16, hexDigit n ≠ '-' := by decide
    obtain ⟨n, hn, rfl⟩ := mem_hexBytes hc
    exact decide_eq_true (hdash n hn)
  have happend : ∀ l l' : List UInt8, hexBytes l ++ hexBytes l' = hexBytes (l ++ l') := fun _ _ =>
    List.flatMap_append.symm
  unfold Uuid.hyphenated
  simp only [List.filter_append, hdigits, List.filter_cons_of_neg, ne_eq, not_true_eq_false, decide_false,
    Bool.false_eq_true, not_false_eq_true, happend, List.append_assoc]
  rw [← groups_append]

/-- The text tells the identifier. -/
theorem Uuid.hyphenated_inj {u v : Uuid} (h : u.hyphenated = v.hyphenated) : u = v := by
  have hbytes : hexBytes u.bytes.toList = hexBytes v.bytes.toList := by
    rw [← u.hyphenated_digits, ← v.hyphenated_digits, h]
  have hlen : u.bytes.toList.length = v.bytes.toList.length := by
    rw [u.bytes.length_toList, v.bytes.length_toList]
  cases u
  cases v
  exact congrArg Uuid.mk (Vector.toList_inj.mp (hexBytes_inj hlen hbytes))

/-- A text of identifiers up to a fixed start tells the first of them. -/
theorem Uuid.hyphenated_start_inj {u v : Uuid} {start l l' : List Char}
    (h : start ++ (u.hyphenated ++ l) = start ++ (v.hyphenated ++ l')) : u = v := by
  have hlen : u.hyphenated.length = v.hyphenated.length := by
    rw [u.hyphenated_length, v.hyphenated_length]
  exact Uuid.hyphenated_inj (List.append_inj (List.append_cancel_left h) hlen).1

/-! ## Text -/

/-- `char::is_whitespace`: the Unicode `White_Space` property. -/
def isWhitespace (c : Char) : Bool :=
  let n := c.toNat
  (0x09 ≤ n && n ≤ 0x0D) || n == 0x20 || n == 0x85 || n == 0xA0 || n == 0x1680 ||
    (0x2000 ≤ n && n ≤ 0x200A) || n == 0x2028 || n == 0x2029 || n == 0x202F || n == 0x205F ||
    n == 0x3000

theorem isWhitespace_space : isWhitespace ' ' = true := by decide

def trimStart (s : String) : String := String.ofList (s.toList.dropWhile isWhitespace)

def trim (s : String) : String :=
  String.ofList ((s.toList.dropWhile isWhitespace).reverse.dropWhile isWhitespace).reverse

/-- What is left at the front has nothing to drop. -/
theorem dropWhile_of_prefix {p : Char → Bool} {l l' : List Char} (h : l <+: l'.dropWhile p) :
    l.dropWhile p = l := by
  obtain ⟨rest, hrest⟩ := h
  cases l with
  | nil => rfl
  | cons c l =>
    have hhead := List.head?_dropWhile_not p l'
    rw [← hrest] at hhead
    exact List.dropWhile_cons_of_neg (by simpa using hhead)

/-- Trimming a trimmed text does nothing. -/
theorem trim_trim (s : String) : trim (trim s) = trim s := by
  let kept := s.toList.dropWhile isWhitespace
  let text := (kept.reverse.dropWhile isWhitespace).reverse
  have hprefix : text <+: kept := by
    have hsuffix := List.dropWhile_suffix isWhitespace (l := kept.reverse)
    rw [← List.reverse_prefix, List.reverse_reverse] at hsuffix
    exact hsuffix
  have hstart : text.dropWhile isWhitespace = text := dropWhile_of_prefix hprefix
  have hend : text.reverse.dropWhile isWhitespace = text.reverse := by
    have hreverse : text.reverse = kept.reverse.dropWhile isWhitespace := List.reverse_reverse _
    rw [hreverse]
    exact dropWhile_of_prefix (List.prefix_refl _)
  show String.ofList (((String.ofList text).toList.dropWhile isWhitespace).reverse.dropWhile
    isWhitespace).reverse = String.ofList text
  rw [String.toList_ofList, hstart, hend, List.reverse_reverse]

/-- `value.split_whitespace().collect::<Vec<_>>().join(" ")`. -/
def collapseWhitespace (value : String) : String :=
  let words := (value.toList.splitBy fun a b => isWhitespace a == isWhitespace b).filter fun w =>
    !w.all isWhitespace
  String.intercalate " " (words.map String.ofList)

/-- `char::is_control`: the Unicode category `Cc`. -/
def isControl (c : Char) : Bool := c.toNat < 0x20 || (0x7F ≤ c.toNat && c.toNat < 0xA0)

/-- `s.chars().count()`. -/
def charsCount (s : String) : Nat := s.toList.length

/-- The decimal text of an id. -/
def idText (n : Int) : List Char := (toString n).toList

theorem idText_eq (n : Int) : idText n =
    if 0 ≤ n then Nat.toDigits 10 n.toNat else '-' :: Nat.toDigits 10 (-n).toNat := by
  unfold idText
  rw [Int.toString_eq_repr, Int.repr_eq_if]
  split
  · exact Nat.toList_repr
  · rw [String.toList_append, Nat.toList_repr]
    rfl

theorem isDigit_of_mem_idText {n : Int} {c : Char} (h : c ∈ idText n) : c.isDigit = true ∨ c = '-' := by
  have hdigit : ∀ m : Nat, c ∈ Nat.toDigits 10 m → c.isDigit = true := fun m =>
    Nat.isDigit_of_mem_toDigits (by decide) (by decide)
  rw [idText_eq] at h
  split at h
  · exact .inl (hdigit _ h)
  · rcases List.mem_cons.mp h with h | h
    · exact .inr h
    · exact .inl (hdigit _ h)

/-- An `i64`. -/
def IsI64 (n : Int) : Prop := -9223372036854775808 ≤ n ∧ n ≤ 9223372036854775807

instance (n : Int) : Decidable (IsI64 n) := inferInstanceAs (Decidable (_ ∧ _))

theorem length_idText_le {n : Int} (h : IsI64 n) : (idText n).length ≤ 20 := by
  obtain ⟨hmin, hmax⟩ := h
  have hdigits : ∀ {m k : Nat}, 0 < k → m < 10 ^ k → (Nat.toDigits 10 m).length ≤ k :=
    fun hk hm => (Nat.length_toDigits_le_iff (by decide) hk).mpr hm
  rw [idText_eq]
  split
  · exact hdigits (by decide) (by omega)
  · have := @hdigits (-n).toNat 19 (by decide) (by omega)
    rw [List.length_cons]
    omega

theorem idText_byteSize_le {n : Int} (h : IsI64 n) : (toString n).utf8ByteSize ≤ 20 := by
  have hascii : Fields.Ascii (idText n) := by
    rw [idText_eq]
    split
    · exact Fields.ascii_toDigits _
    · exact .cons (by decide) (Fields.ascii_toDigits _)
  rw [Fields.byteSize_eq_length hascii]
  exact length_idText_le h

theorem idText_inj {m n : Int} (h : idText m = idText n) : m = n := by
  have hminus : ∀ (k : Nat) (l : List Char), Nat.toDigits 10 k ≠ '-' :: l := by
    intro k l hk
    have hmem : '-' ∈ Nat.toDigits 10 k := by
      rw [hk]
      exact List.mem_cons_self
    exact absurd (Nat.isDigit_of_mem_toDigits (by decide) (by decide) hmem) (by decide)
  rw [idText_eq, idText_eq] at h
  split at h <;> split at h
  · have := Fields.toDigits_inj h
    omega
  · exact absurd h (hminus _ _)
  · exact absurd h.symm (hminus _ _)
  · have := Fields.toDigits_inj (List.cons.inj h).2
    omega

theorem idText_free (n : Int) : Fields.Free ':' (toString n) := by
  intro hc
  rcases isDigit_of_mem_idText (n := n) hc with hdigit | hdash
  · cases hdigit
  · exact absurd hdash (by decide)

/-- Two keys that agree up to the colon after an id speak of the same id. -/
theorem idText_colon_inj {m n : Int} {l l' : List Char} (h : idText m ++ ':' :: l = idText n ++ ':' :: l') :
    m = n := by
  have hcolon : ∀ k : Int, ∀ c ∈ idText k, (c != ':') = true := by
    intro k c hc
    refine bne_iff_ne.mpr fun he => idText_free k ?_
    rw [← he]
    exact hc
  exact idText_inj (Fields.append_stop_inj (hcolon m) (hcolon n) (by decide) h).1

end TaskBot
