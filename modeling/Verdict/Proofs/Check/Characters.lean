import Verdict.Proofs.Check.Judgement
import Verdict.Proofs.Pattern.Repetition

/-!
# Texts of one kind of characters

Two checks ask of a text whether it has characters and all of them are of a kind, the digits of one
check and the letters and digits of the other. Each is the check against a pattern, that of the
repeated class of the kind (`TextCheck.exists_alike_of_repeated`), but the classes are written in
different ways: a digit may be of any script, and a letter or digit has to be one of sixty-two
characters of the first 128. So digits are letters or digits only as far as they are plain
(`Text.isPlainAlphanumeric_iff_of_isDigit`), and `TextCheck.alphanumeric_of_numeric` is what follows
for the checks.
-/

namespace Verdict

/-! ## Kinds of characters -/

namespace Text

/-- Below the second range, only the first one counts. -/
theorem Ranges.has_of_lt {n low high low' high' : Nat} {rest : Ranges} (h : n < low') :
    Ranges.has ((low, high) :: (low', high') :: rest) n = true ↔ low ≤ n ∧ n ≤ high := by
  rw [Ranges.has, Ranges.has, if_pos h, Bool.or_false]
  by_cases hlow : n < low
  · rw [if_pos hlow]
    exact ⟨fun h => absurd h Bool.false_ne_true, fun hn => absurd hlow (Nat.not_lt.mpr hn.1)⟩
  · rw [if_neg hlow, decide_eq_true_eq]
    exact ⟨fun hhigh => ⟨Nat.not_lt.mp hlow, hhigh⟩, And.right⟩

/-- Among the first 128 characters, the digits are the ten plain ones. -/
theorem isDigit_iff_of_lt {a : Char} (h : a.toNat < 128) :
    isDigit a = true ↔ 48 ≤ a.toNat ∧ a.toNat ≤ 57 :=
  Ranges.has_of_lt (Nat.lt_of_lt_of_le h (by decide))

theorem isPlainAlphanumeric_iff {a : Char} : isPlainAlphanumeric a = true ↔
    (65 ≤ a.toNat ∧ a.toNat ≤ 90) ∨ (97 ≤ a.toNat ∧ a.toNat ≤ 122) ∨
      (48 ≤ a.toNat ∧ a.toNat ≤ 57) := by
  simp only [isPlainAlphanumeric, Pattern.isAsciiLetter, Bool.or_eq_true, Bool.and_eq_true,
    decide_eq_true_eq, or_assoc]

/-- A digit is an unaccented letter or plain digit exactly if it is among the first 128. -/
theorem isPlainAlphanumeric_iff_of_isDigit {a : Char} (h : isDigit a = true) :
    isPlainAlphanumeric a = true ↔ a.toNat < 128 := by
  rw [isPlainAlphanumeric_iff]
  constructor
  · omega
  · intro hlt
    exact .inr (.inr ((isDigit_iff_of_lt hlt).mp h))

end Text

theorem isAll_iff {p : Char → Bool} {s : String} :
    isAll p s = true ↔ s ≠ "" ∧ ∀ a ∈ s.toList, p a = true := by
  rw [isAll, Bool.and_eq_true, Bool.not_eq_true', List.isEmpty_eq_false_iff, List.all_eq_true, Ne,
    Ne, String.toList_eq_nil_iff]

/-! ## Checks of a kind -/

namespace Check

variable {c d : Check}

/-- Two checks come to the same, whatever value they are asked about. -/
def Alike (c d : Check) : Prop :=
  ∀ v, (c.Admits v ↔ d.Admits v) ∧ (c.Refuses v ↔ d.Refuses v) ∧
    ∀ fault, c.Raises v fault ↔ d.Raises v fault

theorem Fit.alike_of_answer (hc : c.Fit) (hd : d.Fit) (h : ∀ v, c.answer v = d.answer v) :
    c.Alike d := by
  intro v
  refine ⟨?_, ?_, fun fault => ?_⟩
  · rw [hc.admits_iff, hd.admits_iff, h]
  · rw [hc.refuses_iff, hd.refuses_iff, h]
  · rw [hc.raises_iff, hd.raises_iff, h]

end Check

namespace TextCheck

open Pattern (Expr Options CharClass CharSet SetItem)

variable {code : Code} {p : Char → Bool}

/-- The check whether all characters of a text are of a kind. -/
def kindCheck (code : Code) (p : Char → Bool) : Check :=
  Check.flag code fun v => v.textOnly.map (isAll p)

/-- The check whether a pattern matches the whole of a text. -/
def matchCheck (p : Pattern) : Check :=
  ⟨.matchesPattern, .reference Parameter.pattern (.text p.source) false, true,
    fun v => v.textOnly.map p.matchesAll, fun _ => []⟩

theorem kindCheck_admits_iff (h : (kindCheck code p).Fit) (s : String) :
    (kindCheck code p).Admits (.text s) ↔ s ≠ "" ∧ ∀ a ∈ s.toList, p a = true := by
  rw [h.admits_iff, ← isAll_iff]
  exact ⟨Except.ok.inj, congrArg Except.ok⟩

theorem kindCheck_decides (h : (kindCheck code p).Fit) (s : String) :
    (kindCheck code p).Decides (.text s) :=
  h.decides_of_answer rfl

theorem build_numeric :
    (Request.text .numeric).build = .ok (kindCheck .numeric Text.isDigit) := rfl

theorem build_alphanumeric :
    (Request.text .alphanumeric).build = .ok (kindCheck .alphanumeric isPlainAlphanumeric) := rfl

theorem build_matchesPattern {source : String} {q : Pattern}
    (hread : Pattern.read source false = .ok q) (hblank : Text.strip q.source ≠ "") :
    (Request.text (.matchesPattern (.value (.text source)))).build = .ok (matchCheck q) := by
  simp only [Request.build, build, PatternSource.pattern?, hread, bind, Except.bind, if_neg hblank]
  rfl

/-- One character of a set, or more of them, are a text whose characters are all in the set. -/
theorem matchesAll_repeated {source : String} {o : Options} {set : CharSet}
    (hset : ∀ a, set.has o a = p a) (s : String) :
    Pattern.matchesAll ⟨source, .many .greedy 1 none (.one o set)⟩ s = isAll p s := by
  have hunbounded (m : Nat) : ∀ n ∈ (none : Option Nat), m ≤ n := nofun
  have hpos : 1 ≤ s.toList.length ↔ s ≠ "" := by
    rw [Nat.one_le_iff_ne_zero, Ne, List.length_eq_zero_iff, String.toList_eq_nil_iff]
  rw [Bool.eq_iff_iff, Pattern.matchesAll, Expr.matchesAll_many_one (hunbounded 1), isAll_iff,
    hpos, and_iff_left (hunbounded _), and_comm]
  simp only [hset]

/-- A check of a kind is the check against the repeated class of its characters. -/
theorem exists_alike_of_repeated {source : String} {o : Options} {set : CharSet}
    (h : (kindCheck code p).Fit)
    (hread : Pattern.read source false = .ok ⟨source, .many .greedy 1 none (.one o set)⟩)
    (hblank : Text.strip source ≠ "") (hset : ∀ a, set.has o a = p a) :
    ∃ d, (Request.text (.matchesPattern (.value (.text source)))).build = .ok d ∧
      (kindCheck code p).Alike d := by
  have hd := build_matchesPattern hread hblank
  refine ⟨_, hd, h.alike_of_answer (Request.fit_of_build hd rfl) fun v => ?_⟩
  have hsame : Pattern.matchesAll ⟨source, .many .greedy 1 none (.one o set)⟩ = isAll p :=
    funext (matchesAll_repeated hset)
  rw [matchCheck, hsame]
  rfl

/-! ## Digits among letters and digits -/

/-- The digits of all scripts, as a class. -/
def digitSet : CharSet := ⟨false, [.cls .digit false]⟩

/-- The unaccented letters and the plain digits, as ranges. -/
def plainSet : CharSet := ⟨false, [.range 97 122, .range 65 90, .range 48 57]⟩

/-- The two patterns repeat the two classes. -/
theorem read_repeated :
    Pattern.read "\\d+" false =
        .ok ⟨"\\d+", .many .greedy 1 none (.one {} digitSet)⟩ ∧
      Pattern.read "[a-zA-Z0-9]+" false =
        .ok ⟨"[a-zA-Z0-9]+", .many .greedy 1 none (.one {} plainSet)⟩ :=
  ⟨Pattern.read_of_repeatedSet? (by decide +kernel),
    Pattern.read_of_repeatedSet? (by decide +kernel)⟩

theorem has_digitSet (a : Char) : digitSet.has {} a = Text.isDigit a := by
  simp [digitSet, CharSet.has, SetItem.has, CharClass.has, Text.isDigit]

theorem has_plainSet (a : Char) : plainSet.has {} a = isPlainAlphanumeric a := by
  rw [Bool.eq_iff_iff, Text.isPlainAlphanumeric_iff]
  simp only [plainSet, CharSet.has, SetItem.has, List.any_cons, List.any_nil, Bool.or_false,
    Bool.false_and, if_neg Bool.false_ne_true, Bool.bne_false, Bool.or_eq_true, Bool.and_eq_true,
    decide_eq_true_eq]
  omega

/-- **A numeric text is alphanumeric as far as its digits are plain.** Either check is the one
against a pattern, about values of every kind, and has an answer for every text. A text that passes
for numeric passes for alphanumeric exactly if all its characters are among the first 128, and is
refused as soon as one of them is not. -/
theorem alphanumeric_of_numeric (s : String) : ∃ numeric alphanumeric digits plain,
    (Request.text .numeric).build = .ok numeric ∧
    (Request.text .alphanumeric).build = .ok alphanumeric ∧
    (Request.text (.matchesPattern (.value (.text "\\d+")))).build = .ok digits ∧
    (Request.text (.matchesPattern (.value (.text "[a-zA-Z0-9]+")))).build = .ok plain ∧
    numeric.Alike digits ∧ alphanumeric.Alike plain ∧
    numeric.Decides (.text s) ∧ alphanumeric.Decides (.text s) ∧
    (numeric.Admits (.text s) →
      (alphanumeric.Admits (.text s) ↔ ∀ a ∈ s.toList, a.toNat < 128) ∧
      (alphanumeric.Refuses (.text s) ↔ ∃ a ∈ s.toList, 128 ≤ a.toNat)) := by
  have hnumeric := Request.fit_of_build build_numeric rfl
  have halphanumeric := Request.fit_of_build build_alphanumeric rfl
  obtain ⟨digits, hdigits, hlikeDigits⟩ :=
    exists_alike_of_repeated hnumeric read_repeated.1 (by decide) has_digitSet
  obtain ⟨plain, hplain, hlikePlain⟩ :=
    exists_alike_of_repeated halphanumeric read_repeated.2 (by decide) has_plainSet
  have hdecides := kindCheck_decides halphanumeric s
  refine ⟨_, _, digits, plain, build_numeric, build_alphanumeric, hdigits, hplain, hlikeDigits,
    hlikePlain, kindCheck_decides hnumeric s, hdecides, fun hadmits => ?_⟩
  obtain ⟨hne, hdigit⟩ := (kindCheck_admits_iff hnumeric s).mp hadmits
  have hadmitted : (kindCheck .alphanumeric isPlainAlphanumeric).Admits (.text s) ↔
      ∀ a ∈ s.toList, a.toNat < 128 := by
    rw [kindCheck_admits_iff halphanumeric, and_iff_right hne]
    exact forall₂_congr fun a ha => Text.isPlainAlphanumeric_iff_of_isDigit (hdigit a ha)
  refine ⟨hadmitted, ?_⟩
  rw [hdecides.refuses_iff, hadmitted]
  simp only [not_forall, Nat.not_lt, exists_prop]

/-- A year in plain digits, and one whose last two digits are those of Devanagari. -/
theorem alphanumeric_of_numeric_years : ∃ numeric alphanumeric,
    (Request.text .numeric).build = .ok numeric ∧
    (Request.text .alphanumeric).build = .ok alphanumeric ∧
    numeric.Admits (.text "2026") ∧ alphanumeric.Admits (.text "2026") ∧
    numeric.Admits (.text "20\u0968\u096c") ∧ alphanumeric.Refuses (.text "20\u0968\u096c") := by
  have hadmits {s : String} (hs : isAll Text.isDigit s = true) :
      (kindCheck .numeric Text.isDigit).Admits (.text s) :=
    (kindCheck_admits_iff (Request.fit_of_build build_numeric rfl) s).mpr (isAll_iff.mp hs)
  have hplain := hadmits (by decide : isAll Text.isDigit "2026" = true)
  have hmixed := hadmits (by decide : isAll Text.isDigit "20\u0968\u096c" = true)
  have hascii : "2026".toList.all (fun a => a.toNat < 128) = true := by decide
  have hother : '\u0968' ∈ "20\u0968\u096c".toList := by decide
  obtain ⟨_, _, -, -, hn, ha, -, -, -, -, -, -, hyear⟩ := alphanumeric_of_numeric "2026"
  obtain ⟨_, _, -, -, hn', ha', -, -, -, -, -, -, hyear'⟩ :=
    alphanumeric_of_numeric "20\u0968\u096c"
  obtain rfl := Except.ok.inj (build_numeric.symm.trans hn)
  obtain rfl := Except.ok.inj (build_alphanumeric.symm.trans ha)
  obtain rfl := Except.ok.inj (build_numeric.symm.trans hn')
  obtain rfl := Except.ok.inj (build_alphanumeric.symm.trans ha')
  exact ⟨_, _, hn, ha, hplain,
    (hyear hplain).1.mpr fun a ha => of_decide_eq_true (List.all_eq_true.mp hascii a ha), hmixed,
    (hyear' hmixed).2.mpr ⟨_, hother, by decide⟩⟩

/-- The Arabic digit three is a numeric text that is not alphanumeric. -/
theorem numeric_not_alphanumeric : ∃ numeric alphanumeric,
    (Request.text .numeric).build = .ok numeric ∧
    (Request.text .alphanumeric).build = .ok alphanumeric ∧
    numeric.Admits (.text "\u0663") ∧ alphanumeric.Refuses (.text "\u0663") := by
  have hadmitted : isAll Text.isDigit "\u0663" = true := by decide
  have hrefused : isAll isPlainAlphanumeric "\u0663" = false := by decide
  exact ⟨_, _, build_numeric, build_alphanumeric,
    (kindCheck_admits_iff (Request.fit_of_build build_numeric rfl) _).mpr (isAll_iff.mp hadmitted),
    (Request.fit_of_build build_alphanumeric rfl).refuses_of_answer (congrArg Except.ok hrefused)⟩

end TextCheck

end Verdict
