import TagQuery.Expr.Printer
import TagQuery.Language.Renaming

/-!
# Texts with other characters beyond ASCII

No class of characters and no terminal tells two characters beyond ASCII apart.

* `Renaming.contains_map`, `Renaming.strip?_map`: classes hold the same places of a renamed text,
  and terminals stand at the same places.
* `Expr.text_rename`: the canonical text of a renamed expression is the renamed canonical text.
* `Renaming.refl`: the renaming that changes nothing.
-/

namespace TagQuery

namespace Renaming

variable {c d : Char} {text word : List Char}

/-! ## Characters -/

/-- Whether a character is one of ASCII does not change, and which one this is. -/
theorem map_eq_iff (r : Renaming) (hd : d.toNat < 128) : r.map c = d ↔ c = d := by
  by_cases hc : c.toNat < 128
  · rw [r.map_ascii c hc]
  · have hmap := r.le_map c (Nat.le_of_not_lt hc)
    constructor <;> (rintro rfl; omega)

theorem isAlphanum_of_le (hc : 128 ≤ c.toNat) : c.isAlphanum = false := by
  have hbeyond : ∀ d : Char, d.toNat < 128 → ¬c.val ≤ d.val := by
    intro d hd h
    have hle : c.toNat ≤ d.toNat := UInt32.le_iff_toNat_le.mp h
    omega
  have hupper : c.isUpper = false := decide_eq_false fun h => hbeyond 'Z' (by decide) h.2
  have hlower : decide (c.val ≤ 'z'.val) = false := decide_eq_false (hbeyond 'z' (by decide))
  have hdigit : decide (c.val ≤ '9'.val) = false := decide_eq_false (hbeyond '9' (by decide))
  show (c.isUpper || (decide ('a'.val ≤ c.val) && decide (c.val ≤ 'z'.val)) ||
    (decide ('0'.val ≤ c.val) && decide (c.val ≤ '9'.val))) = false
  rw [hupper, hlower, hdigit, Bool.and_false, Bool.and_false]
  rfl

theorem beq_map (r : Renaming) (hd : d.toNat < 128) : (r.map c == d) = (c == d) := by
  rw [Bool.eq_iff_iff, beq_iff_eq, beq_iff_eq, r.map_eq_iff hd]

/-- No class tells two characters beyond ASCII apart. -/
theorem contains_map (r : Renaming) (cls : CharClass) (c : Char) :
    cls.contains (r.map c) = cls.contains c := by
  have hletter : (r.map c).isAlphanum = c.isAlphanum := by
    by_cases hc : c.toNat < 128
    · rw [r.map_ascii c hc]
    · have hle := Nat.le_of_not_lt hc
      rw [isAlphanum_of_le hle, isAlphanum_of_le (r.le_map c hle)]
  have hmark : CharClass.patternMarks.contains (r.map c) = CharClass.patternMarks.contains c := by
    simp [CharClass.patternMarks, r.map_eq_iff]
  cases cls with
  | word => exact hletter
  | unquoted => simp only [CharClass.contains, bne, r.beq_map (d := '"') (by decide)]
  | pattern => simp only [CharClass.contains, hletter, hmark]
  | space => exact r.beq_map (by decide)

/-- Only ASCII letters have two cases. -/
theorem toUpper_map (r : Renaming) (c : Char) : (r.map c).toUpper = r.map c.toUpper := by
  by_cases hc : c.toNat < 128
  · have hupper : c.toUpper.toNat < 128 := by
      unfold Char.toUpper
      split
      next h =>
        rw [UInt32.le_iff_toNat_le, UInt32.le_iff_toNat_le] at h
        show (c.val + 4294967264).toNat < 128
        simp [UInt32.toNat_add] at h ⊢
        omega
      next => exact hc
    rw [r.map_ascii c hc, r.map_ascii _ hupper]
  · have hupper : ∀ {c : Char}, 128 ≤ c.toNat → c.toUpper = c := by
      intro c hc
      refine dif_neg fun h => ?_
      have hz : c.val.toNat ≤ 122 := UInt32.le_iff_toNat_le.mp h.2
      exact absurd (Nat.le_trans hc hz) (by decide)
    have hle := Nat.le_of_not_lt hc
    rw [hupper hle, hupper (r.le_map c hle)]

/-! ## Texts and terminals -/

@[simp] theorem toList_text (r : Renaming) (text : String) :
    (r.text text).toList = text.toList.map r.map :=
  String.toList_map

theorem text_ofList (r : Renaming) (text : List Char) :
    r.text (String.ofList text) = String.ofList (text.map r.map) := by
  simp [← String.toList_inj]

theorem map_list_eq_iff (r : Renaming) (hword : word.all (·.toNat < 128)) :
    text.map r.map = word ↔ text = word := by
  induction text generalizing word with
  | nil => simp
  | cons c text ih =>
    cases word with
    | nil => simp
    | cons d word =>
      obtain ⟨hd, hword⟩ := Bool.and_eq_true_iff.mp hword
      simp [r.map_eq_iff (of_decide_eq_true hd), ih hword]

/-- A terminal is found in the renamed text where it is found in the text. -/
theorem strip?_map (r : Renaming) (t : Terminal) (text : List Char) :
    t.strip? (text.map r.map) = (t.strip? text).map (List.map r.map) := by
  cases t with
  | symbol s =>
    have hword : s.text.toList.all (·.toNat < 128) := by
      rcases s with kind | _ | _ | _ | _ | _ <;> first | decide | (cases kind <;> decide)
    simp only [Terminal.strip?, ← List.map_take, ← List.map_drop, r.map_list_eq_iff hword]
    split <;> rfl
  | keyword k =>
    have hword : k.text.toList.all (·.toNat < 128) := by
      rcases k with op | _ <;> first | decide | (cases op <;> decide)
    have hupper : ∀ text : List Char,
        (text.map r.map).map Char.toUpper = (text.map Char.toUpper).map r.map := fun text => by
      simp [r.toUpper_map]
    simp only [Terminal.strip?, ← List.map_take, ← List.map_drop, hupper, r.map_list_eq_iff hword]
    split <;> rfl
  | character cls =>
    cases text with
    | nil => rfl
    | cons c text =>
      simp only [Terminal.strip?, List.map_cons, r.contains_map]
      split <;> rfl
  | endOfInput => cases text <;> rfl

end Renaming

/-! ## Canonical texts -/

theorem Renaming.text_append (r : Renaming) (a b : String) :
    r.text (a ++ b) = r.text a ++ r.text b := by
  simp [← String.toList_inj]

/-- A text in ASCII stays as it is. -/
theorem Renaming.text_ascii (r : Renaming) {text : String} (h : text.toList.all (·.toNat < 128)) :
    r.text text = text := by
  rw [← String.toList_inj, r.toList_text, r.map_list_eq_iff h]

theorem Tag.isWord_rename (r : Renaming) (value : String) :
    isWord (r.text value) = isWord value := by
  have hletters : Char.isAlphanum ∘ r.map = Char.isAlphanum := funext (r.contains_map .word)
  have hempty : r.text value = "" ↔ value = "" := by
    simp [← String.toList_eq_nil_iff]
  simp [isWord, hletters, hempty]

theorem Tag.valueText_rename (r : Renaming) (value : String) :
    valueText (r.text value) = r.text (valueText value) := by
  have hmark : r.text "\"" = "\"" := r.text_ascii (by decide)
  unfold valueText
  rw [isWord_rename]
  split
  · rfl
  · rw [r.text_append, r.text_append, hmark]

theorem Tag.text_rename (r : Renaming) (t : Tag) : (t.rename r).text = r.text t.text := by
  cases t with
  | semantic value synonyms =>
    show "s:" ++ valueText (r.text value) ++ (if synonyms then "+s" else "") =
      r.text ("s:" ++ valueText value ++ if synonyms then "+s" else "")
    cases synonyms <;>
      simp (disch := decide) [Renaming.text_append, Renaming.text_ascii, valueText_rename]
  | keyword value =>
    show "k:" ++ valueText (r.text value) = r.text ("k:" ++ valueText value)
    simp (disch := decide) [Renaming.text_append, Renaming.text_ascii, valueText_rename]
  | comment value =>
    show "c:" ++ valueText (r.text value) = r.text ("c:" ++ valueText value)
    simp (disch := decide) [Renaming.text_append, Renaming.text_ascii, valueText_rename]
  | regex value =>
    show "r:/" ++ r.text value ++ "/" = r.text ("r:/" ++ value ++ "/")
    simp (disch := decide) [Renaming.text_append, Renaming.text_ascii]

/-- Parentheses do not depend on the characters. -/
theorem Expr.atomic_rename (r : Renaming) (operand : Expr) (spelled : String) :
    text.atomic (operand.rename r) (r.text spelled) = r.text (text.atomic operand spelled) := by
  have hopen : r.text "(" = "(" := r.text_ascii (by decide)
  have hclose : r.text ")" = ")" := r.text_ascii (by decide)
  cases operand <;> simp [rename, text.atomic, r.text_append, hopen, hclose]

theorem Expr.text_rename (r : Renaming) (e : Expr) : (e.rename r).text = r.text e.text := by
  have hnot : r.text "NOT " = "NOT " := r.text_ascii (by decide)
  have hspace : r.text " " = " " := r.text_ascii (by decide)
  induction e with
  | tag t => exact t.text_rename r
  | negation operand ih => simp [rename, text, ih, atomic_rename, r.text_append, hnot]
  | binary op left right ihleft ihright =>
    have hword : r.text op.text = op.text := r.text_ascii (by cases op <;> decide)
    simp [rename, text, ihleft, ihright, atomic_rename, r.text_append, hspace, hword]

/-! ## No change -/

/-- Every character stays as it is. -/
def Renaming.refl : Renaming :=
  ⟨id, fun _ _ => rfl, fun _ h => h⟩

theorem Renaming.text_refl (text : String) : refl.text text = text := by
  simp [← String.toList_inj, refl]

theorem Expr.rename_refl (e : Expr) : e.rename .refl = e := by
  induction e with
  | tag t => simp [rename, Tag.rename, Renaming.text_refl, Tag.ofKind_kind]
  | negation operand ih => rw [rename, ih]
  | binary op left right ihleft ihright => rw [rename, ihleft, ihright]

end TagQuery
