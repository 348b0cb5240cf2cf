import Verdict.Proofs.Session.Growth

/-!
# Silence

A selection is silent from when it is silenced, or its validator short-circuited, and stays so.
While it is, nothing that it is asked to do is done (`Mute`): no rule is run and no condition or
watcher asked, so that nothing can fault either, and the session stays as it is.

Silencing a selection concerns that selection alone. A validator reports what calls on itself have
made it, and the first of them that short-circuits it is the one that is logged; after that there
is nothing to log (`length_recordsOf`).
-/

namespace Verdict.Session

variable {ν : Type} {s t : Session}

/-! ## While silent -/

/-- Whatever a selection is asked to do, it does nothing. -/
structure Mute (ν : Type) (s : Session) (p : Nat) : Prop where
  apply : ∀ (guard : Guard) (rule : Rule ν), s.apply p guard rule = .done s ()
  watch : ∀ watcher : Value → Except Fault (List ν), s.watch p watcher = .done s ()
  validateScoped : ∀ rule : Value → Nat → Script ν, s.validateScoped p rule = .done s ()

theorem mute_of_isSilent {p : Nat} (h : s.isSilent p = true) : s.Mute ν p := by
  obtain ⟨selection, hsel, -⟩ := exists_of_isSilent h
  refine ⟨fun guard rule => ?_, fun watcher => ?_, fun rule => ?_⟩
  · rw [Session.apply, hsel]
    exact if_pos h
  · rw [Session.watch, hsel]
    exact if_pos (by rw [h, Bool.true_or])
  · have hscope : s.scope? p = none := by
      rw [scope?, hsel]
      exact if_pos h
    rw [Session.validateScoped, handOver, hsel, hscope]

/-! ## Silencing one selection -/

theorem Call.silences?_eq_none {c : Call ν} {v : Nat} (h : c.validator? = some v) :
    c.silences? = none := by
  cases c with
  | silenceIf p condition => cases h
  | silenceIfErrors p => cases h
  | _ => rfl

theorem isShort_congr (hv : t.validators = s.validators) (v : Nat) : t.isShort v = s.isShort v := by
  rw [isShort, isShort, hv]

/-- A call that silences a selection changes the report of no other member. -/
theorem Change.isShortCircuited_of_silences {c : Call ν} {logs : List LogEvent}
    (h : Change s c t logs) {p : Nat} (hc : c.silences? = some p) {m : Member}
    (hm : m ≠ .selection p) : t.isShortCircuited m = s.isShortCircuited m := by
  have hnone : c.silences? ≠ none := by
    rw [hc]
    exact Option.some_ne_none p
  cases h with
  | opened _ hc' => exact absurd hc' hnone
  | selected _ hc' => exact absurd hc' hnone
  | nested _ _ _ hc' => exact absurd hc' hnone
  | tripped _ _ _ _ hc' => exact absurd (Call.silences?_eq_none hc') hnone
  | still hv hp =>
    cases m with
    | validator v => exact isShort_congr hv v
    | selection q =>
      rw [Session.isShortCircuited, isSilent, hp, Session.isShortCircuited, isSilent]
      simp only [isShort_congr hv]
  | silenced q selection hc' _ hv hp =>
    obtain rfl := Option.some.inj (hc'.symm.trans hc)
    cases m with
    | validator v => exact isShort_congr hv v
    | selection r =>
      have hne : q ≠ r := fun heq => hm (congrArg _ heq.symm)
      rw [Session.isShortCircuited, isSilent, hp, List.getElem?_set_ne hne,
        Session.isShortCircuited, isSilent]
      simp only [isShort_congr hv]

/-- A selection that is there is not silenced alone. -/
def Open (s : Session) (p : Nat) : Prop :=
  ∀ selection, s.selections[p]? = some selection → selection.short = false

/-- Only a call that is to silence a selection does so. -/
theorem Change.keeps_open {c : Call ν} {logs : List LogEvent} (h : Change s c t logs) {p : Nat}
    (hc : c.silences? ≠ some p) (hs : s.Open p) : t.Open p := by
  intro selection hsel
  cases h with
  | still _ hp | opened _ _ _ _ hp | tripped _ _ _ _ _ _ _ hp =>
    rw [hp] at hsel
    exact hs selection hsel
  | selected _ _ _ hfresh _ hp | nested _ _ _ _ _ _ _ _ hfresh _ hp =>
    rw [hp] at hsel
    rcases getElem?_concat_cases hsel with hold | ⟨-, rfl⟩
    · exact hs selection hold
    · exact hfresh
  | silenced q _ hc' _ _ hp =>
    rw [hp] at hsel
    rcases getElem?_set_cases hsel with hold | ⟨rfl, -⟩
    · exact hs selection hold
    · exact absurd hc' hc

theorem open_follow {p : Nat} (hs : s.Open p) {calls : List (Call ν)}
    (hc : ∀ c ∈ calls, c.silences? ≠ some p) : (s.follow calls).Open p := by
  induction calls generalizing s with
  | nil => exact hs
  | cons c rest ih =>
    obtain ⟨hhead, hrest⟩ := List.forall_mem_cons.mp hc
    exact ih ((s.act_change c).keeps_open hhead hs) hrest

/-- A selection that no call was to silence reports what its validator reports. -/
theorem isSilent_of_not_silenced {calls : List (Call ν)} {p : Nat}
    (hc : ∀ c ∈ calls, c.silences? ≠ some p) {selection : Selection}
    (hsel : (after calls).selections[p]? = some selection) :
    (after calls).isSilent p = (after calls).isShort selection.parent := by
  have hempty : empty.Open p := fun _ h => by cases h
  rw [isSilent_of_getElem? hsel, open_follow hempty hc selection hsel, Bool.false_or]

/-! ## Short-circuiting a validator -/

/-- What is logged is that the validator that the call is made on has come to be
short-circuited. -/
theorem Change.logged {c : Call ν} {logs : List LogEvent} (h : Change s c t logs) :
    logs = [] ∨ ∃ v reason failures, c.validator? = some v ∧ s.isShort v = false ∧
      t.isShort v = true ∧ logs = [.shortCircuited reason failures] := by
  cases h with
  | still _ _ hlogs | opened _ _ _ _ _ hlogs | selected _ _ _ _ _ _ hlogs
  | nested _ _ _ _ _ _ _ _ _ _ _ hlogs | silenced _ _ _ _ _ _ hlogs => exact .inl hlogs
  | tripped v validator reason failures hc hval hv _ hlogs =>
    rcases hshort : validator.short with _ | _
    · refine .inr ⟨v, reason, failures, hc, ?_, ?_, ?_⟩
      · rw [isShort_of_getElem? hval, hshort]
      · rw [isShort, hv, List.getElem?_set_self (List.getElem?_eq_some_iff.mp hval).1]
      · rw [hlogs, hshort]
        rfl
    · refine .inl ?_
      rw [hlogs, hshort]
      rfl

/-- If a validator comes to be short-circuited, the call was made on it, and is logged. -/
theorem Change.news {c : Call ν} {logs : List LogEvent} (h : Change s c t logs) {v : Nat}
    (hlt : v < s.validators.length) (hs : s.isShort v = false) (ht : t.isShort v = true) :
    c.validator? = some v ∧ logs ≠ [] := by
  have hsame : t.validators[v]? ≠ s.validators[v]? := by
    intro heq
    rw [isShort, heq, ← isShort, hs] at ht
    cases ht
  cases h with
  | still hv | selected _ _ _ _ hv | silenced _ _ _ _ hv => exact absurd (by rw [hv]) hsame
  | opened _ _ _ hv | nested _ _ _ _ _ _ _ _ _ hv =>
    rw [hv, List.getElem?_append_left hlt] at hsame
    exact absurd rfl hsame
  | tripped w validator _ _ hc hval hv _ hlogs =>
    by_cases hw : w = v
    · subst hw
      rw [isShort_of_getElem? hval] at hs
      refine ⟨hc, ?_⟩
      rw [hlogs, hs]
      exact List.cons_ne_nil _ _
    · rw [hv, List.getElem?_set_ne hw] at hsame
      exact absurd rfl hsame

/-- The records that calls on a validator leave. -/
def recordsOf (v : Nat) (s : Session) : List (Call ν) → List LogEvent
  | [] => []
  | c :: rest =>
    (if c.validator? = some v then (s.act c).logs else []) ++ recordsOf v (s.act c).session rest

/-- A validator that is short-circuited leaves no record, and any other leaves one at most. -/
theorem length_recordsOf (v : Nat) (s : Session) (calls : List (Call ν)) :
    (recordsOf v s calls).length ≤ if s.isShort v then 0 else 1 := by
  induction calls generalizing s with
  | nil => exact Nat.zero_le _
  | cons c rest ih =>
    have hrest := ih (s.act c).session
    have hmono : s.isShort v = true → (s.act c).session.isShort v = true :=
      (s.extends_act c).isShort
    have hlater : (recordsOf v (s.act c).session rest).length ≤ if s.isShort v then 0 else 1 := by
      rcases hs : s.isShort v with _ | _
      · rw [if_neg Bool.false_ne_true]
        exact Nat.le_trans hrest (by split <;> omega)
      · rwa [hmono hs] at hrest
    rw [recordsOf, List.length_append]
    rcases (s.act_change c).logged with hnone | ⟨w, reason, failures, hc, hs, ht, hlogs⟩
    · rwa [hnone, ite_self, List.length_nil, Nat.zero_add]
    · by_cases hw : c.validator? = some v
      · -- the one record that there is, for the rest finds the validator short-circuited
        obtain rfl := Option.some.inj (hc.symm.trans hw)
        rw [ht, if_pos rfl] at hrest
        rw [if_pos hw, hlogs, hs, List.length_singleton, if_neg Bool.false_ne_true]
        omega
      · rwa [if_neg hw, List.length_nil, Nat.zero_add]

/-! ## All together -/

/-- **Short-circuiting is once and for all**, at every point of every run. What is short-circuited
stays so. A silent selection is mute. A call that silences a selection changes the report of
nothing else, and a selection that no call was to silence reports what its validator reports.
Calls on a validator leave one record at most, namely when it comes to be short-circuited, and
other calls leave none. The work of a scoped rule is calls like any others. -/
theorem short_circuit_once (calls : List (Call ν)) :
    let s := after calls
    (∀ m, s.isShortCircuited m = true → ∀ later : List (Call ν),
      (s.follow later).isShortCircuited m = true) ∧
    (∀ p, s.isSilent p = true → s.Mute ν p) ∧
    (∀ (c : Call ν) p, c.silences? = some p → ∀ m, m ≠ .selection p →
      (s.act c).session.isShortCircuited m = s.isShortCircuited m) ∧
    (∀ p selection, s.selections[p]? = some selection → (∀ c ∈ calls, c.silences? ≠ some p) →
      s.isSilent p = s.isShort selection.parent) ∧
    (∀ v, (recordsOf v empty calls).length ≤ 1) ∧
    (∀ (c : Call ν) v, v < s.validators.length →
      ((s.isShort v = false ∧ (s.act c).session.isShort v = true) ↔
        c.validator? = some v ∧ (s.act c).logs ≠ [])) ∧
    (∀ c : Call ν, (s.act c).logs ≠ [] → ∃ v reason failures, c.validator? = some v ∧
      (s.act c).logs = [.shortCircuited reason failures]) ∧
    ∀ p rule, s.IsPlay (s.validateScoped p rule : Turn ν Unit) := by
  intro s
  refine ⟨fun m hm later => (s.extends_follow later).isShortCircuited hm,
    fun p hp => mute_of_isSilent hp,
    fun c p hc m hm => (s.act_change c).isShortCircuited_of_silences hc hm,
    fun p selection hsel hc => isSilent_of_not_silenced hc hsel,
    fun v => length_recordsOf v empty calls,
    fun c v hlt => ⟨fun ⟨hs, ht⟩ => (s.act_change c).news hlt hs ht, fun ⟨hc, hlogs⟩ => ?_⟩,
    fun c hlogs => ?_, fun p rule => s.isPlay_validateScoped p rule⟩
  · obtain ⟨w, reason, failures, hw, hs, ht, -⟩ := (s.act_change c).logged.resolve_left hlogs
    obtain rfl := Option.some.inj (hw.symm.trans hc)
    exact ⟨hs, ht⟩
  · obtain ⟨v, reason, failures, hc, -, -, heq⟩ := (s.act_change c).logged.resolve_left hlogs
    exact ⟨v, reason, failures, hc, heq⟩

/-- A validator with two properties, of which the first is silenced, and then one more. -/
def sampleSilence : List (Call Unit) :=
  [.openFresh (.text "user") false,
    .select 0 (some (.ofField "name")) (.given .null),
    .select 0 (some (.ofField "age")) (.given .null),
    .silenceIf 0 fun _ => .ok true,
    .select 0 (some (.ofField "mail")) (.given .null)]

/-- The first property stays silent, the validator and the other properties are not concerned, and
short-circuiting the validator is logged. -/
theorem short_circuit_once_sampleSilence :
    let s := after sampleSilence
    let trip : Call Unit := .shortCircuitIf 0 fun _ => .ok true
    let silence : Call Unit := .silenceIf 1 fun _ => .ok true
    s.isSilent 0 = true ∧ (s.follow [trip]).isSilent 0 = true ∧ s.Mute Unit 0 ∧
      s.isShort 0 = false ∧ s.isSilent 2 = s.isShort 0 ∧
      (s.act silence).session.isSilent 2 = s.isSilent 2 ∧
      (s.act silence).session.isShort 0 = s.isShort 0 ∧
      (s.act trip).session.isShort 0 = true ∧
      ∃ reason failures, (s.act trip).logs = [.shortCircuited reason failures] := by
  intro s trip silence
  have hsilent : s.isSilent 0 = true := rfl
  have hshort : s.isShort 0 = false := rfl
  have htrip : (s.act trip).session.isShort 0 = true := rfl
  obtain ⟨hkept, hmute, hlocal, hsibling, -, hnews, hlogged, -⟩ := short_circuit_once sampleSilence
  obtain ⟨-, hlogs⟩ := (hnews trip 0 (by decide)).mp ⟨hshort, htrip⟩
  obtain ⟨-, reason, failures, -, heq⟩ := hlogged trip hlogs
  refine ⟨hsilent, hkept (.selection 0) hsilent [trip], hmute 0 hsilent, hshort,
    hsibling 2 _ rfl ?_, hlocal silence 1 rfl (.selection 2) (by decide),
    hlocal silence 1 rfl (.validator 0) (by decide), htrip, reason, failures, heq⟩
  intro c hc
  simp only [sampleSilence, List.mem_cons, List.not_mem_nil, or_false] at hc
  rcases hc with rfl | rfl | rfl | rfl | rfl <;> simp [Call.silences?]

end Verdict.Session
