/-! Letter case among the ASCII letters; every other character stays as it is. -/

namespace HtmlTree.Text

def asciiLower (text : String) : String :=
  String.ofList (text.toList.map Char.toLower)

def hasAsciiUpper (text : String) : Bool :=
  text.toList.any Char.isUpper

theorem isUpper_iff {c : Char} : c.isUpper = true ↔ 'A' ≤ c ∧ c ≤ 'Z' :=
  decide_eq_true_iff

theorem toLower_eq_self {c : Char} (small : c.isUpper = false) : c.toLower = c :=
  dif_neg (of_decide_eq_false small)

theorem val_toLower {c : Char} (upper : c.isUpper = true) : c.toLower.val = c.val + 32 :=
  congrArg Char.val (dif_pos (isUpper_iff.mp upper))

theorem isUpper_toLower (c : Char) : c.toLower.isUpper = false := by
  cases upper : c.isUpper with
  | false => rw [toLower_eq_self upper, upper]
  | true =>
    have within := isUpper_iff.mp upper
    rw [Bool.eq_false_iff, ne_eq, isUpper_iff]
    simp only [Char.le_def, val_toLower upper, UInt32.le_iff_toNat_le, UInt32.toNat_add,
      Char.reduceVal, UInt32.reduceToNat] at within ⊢
    omega

theorem asciiLower_eq_self {text : String} (small : hasAsciiUpper text = false) :
    asciiLower text = text := by
  have kept : text.toList.map Char.toLower = text.toList.map id := by
    apply List.map_congr_left
    intro c member
    have notUpper := List.any_eq_false.mp small c member
    exact toLower_eq_self (by simpa using notUpper)
  rw [asciiLower, kept, List.map_id, String.ofList_toList]

theorem hasAsciiUpper_asciiLower (text : String) : hasAsciiUpper (asciiLower text) = false := by
  rw [hasAsciiUpper, asciiLower, String.toList_ofList, List.any_map, List.any_eq_false]
  intro c _
  exact Bool.eq_false_iff.mp (isUpper_toLower c)

@[simp] theorem asciiLower_asciiLower (text : String) :
    asciiLower (asciiLower text) = asciiLower text :=
  asciiLower_eq_self (hasAsciiUpper_asciiLower text)

end HtmlTree.Text
