import Mathlib.Data.List.DropRight
import Verdict.Proofs.Check.Arguments
import Verdict.Proofs.Value.Order

/-!
# Texts among blank characters

Presence and length are asked of a text without the blank characters around it. More blank
characters around a text are taken off with those that it has, also where it has no others and the
two cannot be told apart (`Text.stripChars_append_left`, `Text.stripChars_append_right`). The four
checks that ask so look at the stripped text alone (`TextCheck.run_of_padded`), and
`TextCheck.padding_ignored` is what follows from that.
-/

namespace Verdict

/-! ## Stripping -/

namespace Text

variable {w cs : List Char}

theorem dropBlank_eq_dropWhile (cs : List Char) : dropBlank cs = cs.dropWhile isBlank := by
  induction cs with
  | nil => rfl
  | cons c rest ih =>
    rw [dropBlank, List.dropWhile_cons, ih]

theorem dropBlank_eq_nil_iff : dropBlank cs = [] ↔ ∀ c ∈ cs, isBlank c = true := by
  rw [dropBlank_eq_dropWhile]
  exact List.dropWhile_eq_nil_iff

theorem dropBlank_dropBlank (cs : List Char) : dropBlank (dropBlank cs) = dropBlank cs := by
  rw [dropBlank_eq_dropWhile, dropBlank_eq_dropWhile, List.dropWhile_idempotent]

theorem dropBlank_append_left (h : ∀ c ∈ w, isBlank c = true) (cs : List Char) :
    dropBlank (w ++ cs) = dropBlank cs := by
  rw [dropBlank_eq_dropWhile, dropBlank_eq_dropWhile, List.dropWhile_append_of_pos h]

/-- Blank characters in front of a text are taken off. -/
theorem stripChars_append_left (h : ∀ c ∈ w, isBlank c = true) (cs : List Char) :
    stripChars (w ++ cs) = stripChars cs := by
  rw [stripChars, stripChars, dropBlank_append_left h]

/-- Blank characters behind a text are taken off, also if there is nothing else in it. -/
theorem stripChars_append_right (h : ∀ c ∈ w, isBlank c = true) (cs : List Char) :
    stripChars (cs ++ w) = stripChars cs := by
  have hreverse : ∀ c ∈ w.reverse, isBlank c = true := fun c hc => h c (List.mem_reverse.mp hc)
  have happend : dropBlank (cs ++ w) =
      if (dropBlank cs).isEmpty then dropBlank w else dropBlank cs ++ w := by
    simp only [dropBlank_eq_dropWhile, List.dropWhile_append]
  rw [stripChars, stripChars, happend]
  by_cases hempty : (dropBlank cs).isEmpty = true
  · -- nothing stands between the blank characters of the text and those behind it
    rw [if_pos hempty, dropBlank_eq_nil_iff.mpr h, List.isEmpty_iff.mp hempty]
  · rw [if_neg hempty, List.reverse_append, dropBlank_append_left hreverse]

/-- What is left of a text is nothing exactly if it is blank all through. -/
theorem stripChars_eq_nil_iff : stripChars cs = [] ↔ ∀ c ∈ cs, isBlank c = true := by
  rw [stripChars, List.reverse_eq_nil_iff, dropBlank_eq_nil_iff]
  simp only [List.mem_reverse]
  rw [← dropBlank_eq_nil_iff, dropBlank_dropBlank, dropBlank_eq_nil_iff]

end Text

/-! ## Checks of the stripped text -/

namespace Check

variable {c : Check} {v w : Value}

/-- A run depends on the value only through the answer and the details of a failure. -/
theorem run_congr (hanswer : c.answer v = c.answer w) (hdetails : c.details v = c.details w)
    (ν : Type) (id : Option Identifier) (r : Result) :
    (Rule.check c : Rule ν).run v id r = (Rule.check c).run w id r := by
  rw [Rule.run, Rule.run, judge_eq, judge_eq, failure_eq, failure_eq, hanswer, hdetails]

end Check

namespace TextCheck

variable {t : TextCheck} {c : Check} {s u : String}

/-- The checks that look at a text without the blank characters around it. -/
def strips : TextCheck → Bool
  | notBlank | minLength _ | maxLength _ | exactLength _ => true
  | _ => false

theorem answer_notBlank (s : String) {c : Check} (h : notBlank.build = .ok c) :
    c.answer (.text s) = .ok (!(Text.stripChars s.toList).isEmpty) := by
  obtain rfl := Except.ok.inj h
  have hstrip : (Text.strip s != "") = !(Text.stripChars s.toList).isEmpty := by
    rw [Text.strip, bne, Bool.not_inj_iff, Bool.eq_iff_iff, beq_iff_eq,
      String.ofList_eq_empty_iff, List.isEmpty_iff]
  exact congrArg Except.ok hstrip

/-- A length is asked about the number of the characters that are left. -/
theorem answer_lengthCheck {code : Code} {key : String} {limit : Value} {aliases : List String}
    {compare : Value → Value → Except Fault Bool}
    (h : lengthCheck code key limit aliases compare = .ok c) (s : String) :
    c.answer (.text s) = compare (.int (strippedLength s)) limit ∧ limit.isNumeric = true := by
  obtain ⟨hsound, rfl⟩ := Check.accept_eq_ok_iff.mp h
  exact ⟨rfl, Value.isNumeric_eq_of_related
    (related_of_requireLimit (Shape.sound_bound_iff.mp hsound))⟩

theorem obstacle?_of_strips (ht : t.strips = true) : t.obstacle? = none := by
  cases t with
  | oneOf _ _ => cases ht
  | _ => rfl

/-- All that such a check sees of a text is what is left of it. -/
theorem answer_of_stripChars_eq (ht : t.strips = true) (h : t.build = .ok c)
    (hstrip : Text.stripChars s.toList = Text.stripChars u.toList) :
    c.answer (.text s) = c.answer (.text u) ∧ c.Decides (.text s) := by
  have hc : c.Fit := (built_of_build h).fit (obstacle?_of_strips ht)
  have hlength : strippedLength s = strippedLength u := congrArg List.length hstrip
  have hmeasured {code : Code} {key : String} {limit : Value} {aliases : List String}
      {compare : Value → Value → Except Fault Bool}
      (h : lengthCheck code key limit aliases compare = .ok c)
      (hdecided : limit.isNumeric = true → ∃ b, compare (.int (strippedLength s)) limit = .ok b) :
      c.answer (.text s) = c.answer (.text u) ∧ c.Decides (.text s) := by
    obtain ⟨hs, hlimit⟩ := answer_lengthCheck h s
    obtain ⟨b, hb⟩ := hdecided hlimit
    rw [hs, (answer_lengthCheck h u).1, hlength]
    exact ⟨rfl, hc.decides_of_answer (hs.trans hb)⟩
  cases t with
  | notBlank =>
    rw [answer_notBlank s h, answer_notBlank u h, hstrip]
    exact ⟨rfl, hc.decides_of_answer (answer_notBlank s h)⟩
  | minLength limit | maxLength limit =>
    exact hmeasured h fun hlimit => ⟨_, Value.related_numeric _ rfl hlimit⟩
  | exactLength limit =>
    have h : lengthCheck .exactLength Parameter.exactLength limit [] (fun v w => .ok (v.equals w)) =
      .ok c := h
    exact hmeasured h fun _ => ⟨_, rfl⟩
  | _ => cases ht

theorem details_of_strips (ht : t.strips = true) (h : t.build = .ok c) (v : Value) :
    c.details v = [] := by
  cases t with
  | notBlank =>
    obtain rfl := Except.ok.inj h
    rfl
  | minLength limit | maxLength limit | exactLength limit =>
    obtain ⟨-, rfl⟩ := Check.accept_eq_ok_iff.mp h
    rfl
  | _ => cases ht

/-- A text with blank characters around it is judged as it is without them. -/
theorem run_of_padded (ht : t.strips = true) (h : t.build = .ok c) {w₁ w₂ : String}
    (h₁ : ∀ a ∈ w₁.toList, Text.isBlank a = true) (h₂ : ∀ a ∈ w₂.toList, Text.isBlank a = true)
    (s : String) (ν : Type) (id : Option Identifier) (r : Result) :
    (Rule.check c : Rule ν).run (.text (w₁ ++ s ++ w₂)) id r =
      (Rule.check c).run (.text s) id r := by
  have hstrip : Text.stripChars (w₁ ++ s ++ w₂).toList = Text.stripChars s.toList := by
    rw [String.toList_append, String.toList_append, Text.stripChars_append_right h₂,
      Text.stripChars_append_left h₁]
  obtain ⟨hanswer, -⟩ := answer_of_stripChars_eq ht h hstrip
  refine Check.run_congr hanswer ?_ ν id r
  rw [details_of_strips ht h, details_of_strips ht h]

/-! ## Presence as a length -/

/-- Lengths from zero on are accepted. -/
theorem requireLimit_length (key : String) {n : Int} (hn : 0 ≤ n) :
    requireLimit key (.int n) true = .ok () := by
  refine requireLimit_of_given rfl (fun _ => ?_) key
  rw [Value.related_int, Relation.holds_compareInt]
  exact congrArg Except.ok (decide_eq_false (Int.not_lt.mpr hn))

theorem exists_length_checks {least most : Int} (hleast : 0 ≤ least) (hmost : 0 ≤ most) :
    ∃ l m, (minLength (.int least)).build = .ok l ∧ (maxLength (.int most)).build = .ok m :=
  ⟨_, _, Check.accept_bound (requireLimit_length _ hleast),
    Check.accept_bound (requireLimit_length _ hmost)⟩

theorem minLength_admits_iff {n : Int} (h : (minLength (.int n)).build = .ok c) (s : String) :
    c.Admits (.text s) ↔ n ≤ strippedLength s := by
  rw [((built_of_build h).fit rfl).admits_iff, (answer_lengthCheck h s).1, Value.related_int,
    Relation.holds_compareInt, Except.ok.injEq, decide_eq_true_eq]

theorem maxLength_refuses_iff {n : Int} (h : (maxLength (.int n)).build = .ok c) (s : String) :
    c.Refuses (.text s) ↔ n < strippedLength s := by
  rw [((built_of_build h).fit rfl).refuses_iff, (answer_lengthCheck h s).1, Value.related_int,
    Relation.holds_compareInt, Except.ok.injEq, decide_eq_false_iff_not, Int.not_le]

theorem notBlank_admits_iff (h : notBlank.build = .ok c) (s : String) :
    c.Admits (.text s) ↔ 0 < strippedLength s := by
  rw [((built_of_build h).fit rfl).admits_iff, answer_notBlank s h, Except.ok.injEq,
    Bool.not_eq_true', List.isEmpty_eq_false_iff, strippedLength, List.length_pos_iff]

/-- Something is left of a text exactly if some character of it is not blank. -/
theorem strippedLength_pos_iff (s : String) :
    0 < strippedLength s ↔ ∃ a ∈ s.toList, Text.isBlank a = false := by
  rw [strippedLength, List.length_pos_iff, Ne, Text.stripChars_eq_nil_iff]
  simp

/-- **Surrounding blank characters never matter** to the checks for presence and length. Whatever
length such a check is accepted with, it has an answer for every text, and a run on a text is the
same with any blank characters in front of the text and behind it. A text is present exactly if some
character of it is not blank, if it has a length of one at least, and if it does not pass for one of
length zero at most. -/
theorem padding_ignored :
    (∀ t c, t.strips = true → (Request.text t).build = .ok c → ∀ s w₁ w₂ : String,
      (∀ a ∈ w₁.toList, Text.isBlank a = true) → (∀ a ∈ w₂.toList, Text.isBlank a = true) →
        c.Decides (.text s) ∧ ∀ (ν : Type) (id : Option Identifier) (r : Result),
          (Rule.check c : Rule ν).run (.text (w₁ ++ s ++ w₂)) id r =
            (Rule.check c).run (.text s) id r) ∧
    ∃ present least most, (Request.text .notBlank).build = .ok present ∧
      (Request.text (.minLength (.int 1))).build = .ok least ∧
      (Request.text (.maxLength (.int 0))).build = .ok most ∧
      ∀ s, (present.Admits (.text s) ↔ ∃ a ∈ s.toList, Text.isBlank a = false) ∧
        (present.Admits (.text s) ↔ least.Admits (.text s)) ∧
        (least.Admits (.text s) ↔ most.Refuses (.text s)) := by
  obtain ⟨present, hpresent⟩ : ∃ c, notBlank.build = .ok c := ⟨_, rfl⟩
  obtain ⟨least, most, hleast, hmost⟩ := exists_length_checks Int.one_nonneg (Int.le_refl 0)
  refine ⟨fun t c ht h s w₁ w₂ h₁ h₂ =>
    ⟨(answer_of_stripChars_eq ht h rfl).2, run_of_padded ht h h₁ h₂ s⟩,
    present, least, most, hpresent, hleast, hmost, fun s => ⟨?_, ?_, ?_⟩⟩
  · rw [notBlank_admits_iff hpresent, strippedLength_pos_iff]
  · rw [notBlank_admits_iff hpresent, minLength_admits_iff hleast]
    omega
  · rw [minLength_admits_iff hleast, maxLength_refuses_iff hmost]
    omega

/-- A text that ends blank itself, among characters of a tabulator, an ideographic space, a line end
and a no-break space, and one that is blank all through. -/
theorem padding_ignored_overlapping :
    let first : String := "\t\u3000"
    let last : String := "\n\u00a0"
    ∃ just least, (Request.text (.exactLength (.int 2))).build = .ok just ∧
      (Request.text (.minLength (.float (.ofInt 1)))).build = .ok least ∧
      (∀ a ∈ first.toList, Text.isBlank a = true) ∧ (∀ a ∈ last.toList, Text.isBlank a = true) ∧
      (Rule.check just : Rule Unit).run (.text (first ++ "ab " ++ last)) none .empty =
        (Rule.check just).run (.text "ab ") none .empty ∧
      (Rule.check least : Rule Unit).run (.text (first ++ " " ++ last)) none .empty =
        (Rule.check least).run (.text " ") none .empty ∧ least.Decides (.text " ") := by
  intro first last
  have hbuilt (length limit : Value)
      (hlength : requireLimit Parameter.exactLength length true = .ok ())
      (hlimit : requireLimit Parameter.minLength limit true = .ok ()) : ∃ just least,
      (Request.text (.exactLength length)).build = .ok just ∧
        (Request.text (.minLength limit)).build = .ok least :=
    ⟨_, _, Check.accept_bound hlength, Check.accept_bound hlimit⟩
  obtain ⟨just, least, hjust, hleast⟩ :=
    hbuilt (.int 2) (.float (.ofInt 1)) (by decide +kernel) (by decide +kernel)
  have hfirst : ∀ a ∈ first.toList, Text.isBlank a = true :=
    List.all_eq_true.mp (by decide)
  have hlast : ∀ a ∈ last.toList, Text.isBlank a = true :=
    List.all_eq_true.mp (by decide)
  obtain ⟨hpadded, -⟩ := padding_ignored
  obtain ⟨hdecides, hrun⟩ := hpadded _ least rfl hleast " " first last hfirst hlast
  exact ⟨just, least, hjust, hleast, hfirst, hlast,
    (hpadded _ just rfl hjust "ab " first last hfirst hlast).2 Unit none .empty,
    hrun Unit none .empty, hdecides⟩

end TextCheck

end Verdict
