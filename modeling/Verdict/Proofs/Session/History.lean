import Verdict.Proofs.Result.History
import Verdict.Session

/-!
# Histories of sessions

Callers open validators, select properties of them to any depth, apply rules, and short-circuit, in
any order and on any of the validators and selections there are by then. A `Session.Call` is one
such step, `Session.play` a list of them, and `Session.after` the session that a list of them leads
to from nothing. What holds after every list of calls holds at every point of every run.

A scoped rule drives further work itself: it makes calls in the light of what the ones before gave,
hands over to scoped rules in turn, and goes on after a fault or does not. A `Script` is such work.
Whatever a script does, it is some calls made one after the other (`Script.isPlay_run`); this is
why a list of calls is enough for a history, with the calls of scoped rules in their places.
-/

namespace Verdict

/-- One of the two that can be short-circuited, by its number. -/
inductive Member where
  | validator (v : Nat)
  | selection (p : Nat)
deriving DecidableEq

/-- A turn without its answer, but for the fault. -/
def Turn.discard {ν α : Type} (t : Turn ν α) : Turn ν Unit :=
  ⟨t.session, t.notes, t.logs, t.answer.map fun _ => ()⟩

/-- A turn and then another from where it ended, in the light of its answer. -/
def Turn.andThen {ν : Type} (t : Turn ν Unit)
    (next : Session → Except Fault Unit → Turn ν Unit) : Turn ν Unit :=
  let u := next t.session t.answer
  ⟨u.session, t.notes ++ u.notes, t.logs ++ u.logs, u.answer⟩

namespace Session

variable {ν : Type}

/-- Whether a validator or a selection is short-circuited, as it reports itself. -/
def isShortCircuited (s : Session) : Member → Bool
  | .validator v => s.isShort v
  | .selection p => s.isSilent p

/-! ## Calls -/

/-- A step that callers can take with validators, selections and their results, each named by its
number. -/
inductive Call (ν : Type) where
  /-- What is done to a result by others than the session. -/
  | result (action : Action ν)
  | openFresh (target : Value) (short : Bool)
  | openOn (target : Value) (r : Nat) (short : Bool)
  | openOver (target : Value) (parent : Option Nat)
  | select (v : Nat) (identifier : Option Identifier) (source : ValueSource)
  | selectWithin (p : Nat) (identifier : Option Identifier)
    (extract : Value → Except Fault Value)
  | apply (p : Nat) (guard : Guard) (rule : Rule ν)
  | watch (p : Nat) (watcher : Value → Except Fault (List ν))
  | circuitBreaker (v : Nat) (value : Value) (identifier : Option Identifier) (rule : Rule ν)
  | shortCircuitIf (v : Nat) (condition : ResultCondition)
  | shortCircuitIfErrors (v : Nat)
  | silenceIf (p : Nat) (condition : ResultCondition)
  | silenceIfErrors (p : Nat)
  | merge (v other : Nat)

namespace Call

/-- The validator that a call is made on, if it is made on one. -/
def validator? : Call ν → Option Nat
  | select v _ _ => some v
  | circuitBreaker v _ _ _ => some v
  | shortCircuitIf v _ => some v
  | shortCircuitIfErrors v => some v
  | merge v _ => some v
  | _ => none

/-- The selection that a call is to silence, if it is such a call. -/
def silences? : Call ν → Option Nat
  | silenceIf p _ => some p
  | silenceIfErrors p => some p
  | _ => none

end Call

/-- What a call gives. -/
def act (s : Session) : Call ν → Turn ν Unit
  | .result action =>
    let (results, fault) := s.results.act action
    ⟨{ s with results := results }, [], [], fault.elim (.ok ()) .error⟩
  | .openFresh target short => .done (s.openFresh target short).1 ()
  | .openOn target r short => (s.openOn target r short).discard
  | .openOver target parent => (s.openOver target parent).discard
  | .select v identifier source => (s.select v identifier source).discard
  | .selectWithin p identifier extract => (s.selectWithin p identifier extract).discard
  | .apply p guard rule => s.apply p guard rule
  | .watch p watcher => s.watch p watcher
  | .circuitBreaker v value identifier rule => s.circuitBreaker v value identifier rule
  | .shortCircuitIf v condition => s.shortCircuitIf v condition
  | .shortCircuitIfErrors v => s.shortCircuitIfErrors v
  | .silenceIf p condition => s.silenceIf p condition
  | .silenceIfErrors p => s.silenceIfErrors p
  | .merge v other => s.merge v other

/-- Calls made one after the other, whether or not they end in a fault. -/
def play (s : Session) : List (Call ν) → Turn ν Unit
  | [] => .done s ()
  | c :: rest => (s.act c).andThen fun s _ => s.play rest

/-- The session that a list of calls leads to. -/
def follow (s : Session) (calls : List (Call ν)) : Session := (s.play calls).session

/-- The session after a history. -/
def after (calls : List (Call ν)) : Session := empty.follow calls

@[simp] theorem follow_nil (s : Session) : s.follow ([] : List (Call ν)) = s := rfl

theorem play_append (s : Session) (calls more : List (Call ν)) :
    s.play (calls ++ more) = (s.play calls).andThen fun s _ => s.play more := by
  induction calls generalizing s with
  | nil => rfl
  | cons c rest ih =>
    rw [List.cons_append, play, play]
    simp only [ih, Turn.andThen, List.append_assoc]

/-- **Step to run**: what every call keeps, every list of calls keeps. -/
theorem follow_induction {P : Session → Prop} (step : ∀ s (c : Call ν), P s → P (s.act c).session)
    {s : Session} (h : P s) (calls : List (Call ν)) : P (s.follow calls) := by
  induction calls generalizing s with
  | nil => exact h
  | cons c rest ih => exact ih (step s c h)

/-! ## Scoped rules -/

/-- Hands the value of a selection and its validator to further work, unless it is silenced. -/
def handOver (s : Session) (p : Nat) (work : Value → Nat → Turn ν Unit) : Turn ν Unit :=
  match s.selections[p]? with
  | none => .stopped s .missingMember
  | some _ =>
    match s.scope? p with
    | none => .done s ()
    | some (value, v) => work value v

/-- Work on a session. What comes next may depend on the session by then and on the answer to the
last step, so that a fault can be passed on or not. -/
inductive Script (ν : Type) where
  /-- Nothing more, perhaps because of a fault. -/
  | stop (answer : Except Fault Unit)
  | call (c : Call ν) (next : Session → Except Fault Unit → Script ν)
  /-- A selection is to hand over to a scoped rule. -/
  | handOver (p : Nat) (rule : Value → Nat → Script ν)
    (next : Session → Except Fault Unit → Script ν)

/-- What a script does. -/
def Script.run : Script ν → Session → Turn ν Unit
  | stop answer, s => ⟨s, [], [], answer⟩
  | call c next, s => (s.act c).andThen fun s answer => (next s answer).run s
  | handOver p rule next, s =>
    (s.handOver p fun value v => (rule value v).run s).andThen fun s answer => (next s answer).run s

/-- Applies a scoped rule to a selection: it gets the value and the validator. -/
def validateScoped (s : Session) (p : Nat) (rule : Value → Nat → Script ν) : Turn ν Unit :=
  s.handOver p fun value v => (rule value v).run s

/-- A turn that is, but for its answer, some calls made one after the other. -/
def IsPlay (s : Session) (t : Turn ν Unit) : Prop :=
  ∃ calls : List (Call ν), t = { s.play calls with answer := t.answer }

theorem isPlay_still (s : Session) (answer : Except Fault Unit) :
    s.IsPlay (⟨s, [], [], answer⟩ : Turn ν Unit) := ⟨[], rfl⟩

theorem isPlay_act (s : Session) (c : Call ν) : s.IsPlay (s.act c) := by
  refine ⟨[c], ?_⟩
  simp only [play, Turn.andThen, Turn.done, List.append_nil]

theorem IsPlay.andThen {s : Session} {t : Turn ν Unit} (h : s.IsPlay t)
    {next : Session → Except Fault Unit → Turn ν Unit}
    (hnext : ∀ t answer, IsPlay t (next t answer)) : s.IsPlay (t.andThen next) := by
  obtain ⟨calls, hcalls⟩ := h
  obtain ⟨more, hmore⟩ := hnext t.session t.answer
  refine ⟨calls ++ more, ?_⟩
  rw [play_append, Turn.andThen, hmore, hcalls]
  rfl

theorem IsPlay.handOver {s : Session} {p : Nat} {work : Value → Nat → Turn ν Unit}
    (h : ∀ value v, s.IsPlay (work value v)) : s.IsPlay (s.handOver p work) := by
  rw [Session.handOver]
  rcases s.selections[p]? with _ | selection
  · exact s.isPlay_still _
  · rcases s.scope? p with _ | ⟨value, v⟩
    · exact s.isPlay_still _
    · exact h value v

/-- **A script is calls**: what it leaves, notes and logs is what some calls leave, note and log
that are made one after the other. -/
theorem Script.isPlay_run (script : Script ν) (s : Session) : s.IsPlay (script.run s) := by
  induction script generalizing s with
  | stop answer => exact s.isPlay_still answer
  | call c next ih => exact (s.isPlay_act c).andThen fun t answer => ih t answer t
  | handOver p rule next ihrule ihnext =>
    exact (IsPlay.handOver fun value v => ihrule value v s).andThen fun t answer =>
      ihnext t answer t

theorem isPlay_validateScoped (s : Session) (p : Nat) (rule : Value → Nat → Script ν) :
    s.IsPlay (s.validateScoped p rule) :=
  IsPlay.handOver fun value v => (rule value v).isPlay_run s

end Session

end Verdict
