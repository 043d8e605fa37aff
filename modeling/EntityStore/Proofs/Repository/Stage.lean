import EntityStore.Proofs.Mutation
import EntityStore.Proofs.Store.Step

/-!
# Stages of an operation

What an operation does is a course of stages: hooks that run on entities, requests with what the
store answered them, and refusals by the operation itself. A course is written down in full, as
if all went well, and a run goes along it up to the first stage that fails. What the journal
gets, in which state the store is left and what the operation comes to is read off that part.
-/

namespace EntityStore

open Repository

variable {σ α β γ : Type}

/-- What is asked of the store by a step. -/
def Step.verb : Step → Verb
  | .begin _ => .begin
  | .ask _ r => r.verb
  | .steer _ c => c.verb
  | .abandon _ => .abandon

inductive Stage (α : Type) : Type 1 where
  | hook (point : HookPoint) (e : α)
  | asked (entry : Entry)
  /-- The store was asked, and the operation goes on whatever it answered. -/
  | tried (entry : Entry)
  /-- The operation stops of its own accord. -/
  | refused (err : Error)

abbrev Course (α : Type) := List (Stage α)

namespace Stage

def isHook : Stage α → Bool
  | .hook .. => true
  | _ => false

def entry? : Stage α → Option Entry
  | .asked entry | .tried entry => some entry
  | .hook .. | .refused _ => none

variable [Entity α]

/-- Why the hook fails on the entity. -/
def reason? (point : HookPoint) (e : α) : Option String :=
  match (Entity.hooks.at point e).1 with
  | .error reason => some reason
  | .ok () => none

/-- The error by which the stage ends the operation. The failure of a late hook is none. -/
def failure? : Stage α → Option Error
  | .hook point e => if point.aborts then (reason? point e).map (stopped point) else none
  | .asked ⟨_, .error e⟩ => some e.classify
  | .asked ⟨_, .ok _⟩ | .tried _ => none
  | .refused err => some err

/-- What the observer of hooks is told: one event for a late hook that fails. -/
def told : Stage α → List Event
  | .hook point e =>
    if point.aborts then []
    else (reason? point e).toList.map (.observed (Entity.info α).name point)
  | .asked _ | .tried _ | .refused _ => []

/-- What the stage adds to the journal, but for the lines of the log. -/
def events : Stage α → List Event
  | .hook point e => .hook point (Entity.toRecord e) :: told (.hook point e)
  | .asked entry | .tried entry => [.asked entry.step.verb]
  | .refused _ => []

end Stage

namespace Course

/-- The entries of the store that the stages made. -/
def entries (course : Course α) : List Entry := course.filterMap Stage.entry?

/-- The steps that the stages took on the store. -/
def steps (course : Course α) : List Step := course.entries.map (·.step)

theorem entries_append (course more : Course α) :
    entries (course ++ more) = course.entries ++ more.entries := List.filterMap_append

theorem steps_append (course more : Course α) :
    steps (course ++ more) = course.steps ++ more.steps := by
  rw [steps, entries_append, List.map_append]
  rfl

/-- The same steps, and the operation goes on whatever they are answered. -/
def tries (course : Course α) : Course α := course.entries.map .tried

theorem entries_tries (course : Course α) : course.tries.entries = course.entries := by
  rw [tries, entries, List.filterMap_map]
  exact List.filterMap_some

variable [Entity α]

/-- The course up to its first stage that fails, with that stage. -/
def upTo : Course α → Course α
  | [] => []
  | stage :: course =>
    match stage.failure? with
    | some _ => [stage]
    | none => stage :: upTo course

/-- What the operation comes to: the failure of the first stage that fails. -/
def verdict : Course α → Except Error Unit
  | [] => .ok ()
  | stage :: course =>
    match stage.failure? with
    | some err => .error err
    | none => verdict course

@[simp]
theorem upTo_singleton (stage : Stage α) : upTo [stage] = [stage] := by
  rw [upTo]
  cases stage.failure? <;> rfl

theorem upTo_subset (course : Course α) : course.upTo ⊆ course := by
  induction course with
  | nil => exact List.Subset.refl []
  | cons stage course ih =>
    rw [upTo]
    cases stage.failure? with
    | some err => simp
    | none => exact List.cons_subset_cons stage ih

theorem upTo_tries (course : Course α) :
    course.tries.upTo = course.tries ∧ course.tries.verdict = .ok () := by
  rw [tries]
  induction course.entries with
  | nil => exact ⟨rfl, rfl⟩
  | cons entry entries ih =>
    obtain ⟨run, comes⟩ := ih
    exact ⟨congrArg (Stage.tried entry :: ·) run, comes⟩

theorem events_tries {course : Course α} (unhooked : ∀ stage ∈ course, stage.isHook = false) :
    course.tries.flatMap Stage.events = course.flatMap Stage.events := by
  induction course with
  | nil => rfl
  | cons stage course ih =>
    have rest := ih fun other member => unhooked other (List.mem_cons_of_mem stage member)
    have here := unhooked stage List.mem_cons_self
    cases stage with
    | hook point e => cases here
    | asked entry | tried entry =>
      exact congrArg (Stage.events (.asked entry : Stage α) ++ ·) rest
    | refused err => exact rest

variable {course : Course α} {err : Error}

/-- What is behind a course without a failure is run too. -/
theorem append_of_ok (done : course.verdict = .ok ()) (more : Course α) :
    upTo (course ++ more) = course.upTo ++ more.upTo ∧ verdict (course ++ more) = more.verdict := by
  induction course with
  | nil => exact ⟨rfl, rfl⟩
  | cons stage course ih =>
    rw [verdict] at done
    rw [List.cons_append, upTo, upTo, verdict]
    cases failed : stage.failure? with
    | some err =>
      rw [failed] at done
      cases done
    | none =>
      rw [failed] at done
      obtain ⟨run, comes⟩ := ih done
      exact ⟨congrArg (stage :: ·) run, comes⟩

/-- What is behind a failure does not matter. -/
theorem append_of_error (failed : course.verdict = .error err) (more : Course α) :
    upTo (course ++ more) = course.upTo ∧ verdict (course ++ more) = .error err := by
  induction course with
  | nil => cases failed
  | cons stage course ih =>
    rw [verdict] at failed
    rw [List.cons_append, upTo, upTo, verdict]
    cases fails : stage.failure? with
    | some err =>
      rw [fails] at failed
      exact ⟨rfl, failed⟩
    | none =>
      rw [fails] at failed
      obtain ⟨run, comes⟩ := ih failed
      exact ⟨congrArg (stage :: ·) run, comes⟩

/-- Late hooks behind a course change neither what it comes to nor what is asked of the store. -/
theorem append_late {point : HookPoint} (goesOn : point.aborts = false) (course : Course α)
    (es : List α) : verdict (course ++ es.map (.hook point)) = course.verdict ∧
      (upTo (course ++ es.map (.hook point))).steps = course.upTo.steps := by
  have late : verdict (es.map (Stage.hook point)) = .ok () ∧
      steps (upTo (es.map (Stage.hook point))) = [] := by
    induction es with
    | nil => exact ⟨rfl, rfl⟩
    | cons e es ih =>
      have goes : Stage.failure? (.hook point e) = none := by
        rw [Stage.failure?, goesOn]
        rfl
      rw [List.map_cons, verdict, upTo, goes]
      exact ih
  cases comes : course.verdict with
  | error err =>
    obtain ⟨run, same⟩ := append_of_error comes (es.map (Stage.hook point))
    exact ⟨same, congrArg steps run⟩
  | ok u =>
    obtain ⟨run, same⟩ := append_of_ok comes (es.map (Stage.hook point))
    refine ⟨same.trans late.1, ?_⟩
    rw [run, steps_append, late.2, List.append_nil]

/-- A stage that fails is the last one that is run, and the operation comes to its failure. -/
theorem last_of_failure {stage : Stage α} (member : stage ∈ course.upTo)
    (failed : stage.failure? = some err) :
    course.verdict = .error err ∧ ∃ front, course.upTo = front ++ [stage] := by
  induction course with
  | nil => cases member
  | cons first course ih =>
    rw [upTo] at member ⊢
    rw [verdict]
    cases fails : first.failure? with
    | some err' =>
      rw [fails] at member
      cases List.mem_singleton.mp member
      rw [failed] at fails
      cases fails
      exact ⟨rfl, [], rfl⟩
    | none =>
      rw [fails] at member
      rcases List.mem_cons.mp member with rfl | member
      · rw [failed] at fails
        cases fails
      · obtain ⟨comes, front, split⟩ := ih member
        exact ⟨comes, first :: front, congrArg (first :: ·) split⟩

end Course

/-! ## Runs along a course -/

def Event.isLog : Event → Bool
  | .log _ => true
  | _ => false

def Event.isObserved : Event → Bool
  | .observed .. => true
  | _ => false

variable [Store σ] [Entity α]

/-- The second session comes from the first by the stages of a trace: the journal has grown by
what they add, lines of the log apart, and the store was asked what they asked and nothing else. -/
structure Follows (s s' : Session σ) (trace : Course α) : Prop where
  journal : ∃ events, s'.journal = s.journal ++ events ∧
    events.filter (!·.isLog) = trace.flatMap Stage.events
  answered : Step.log s.store trace.steps = trace.entries
  store : s'.store = Step.after s.store trace.steps

/-- A run goes along the course up to the first stage that fails, and comes to its verdict. -/
structure Runs (course : Course α) (s s' : Session σ) (result : Except Error β) : Prop where
  follows : Follows s s' course.upTo
  comes : result.map (fun _ => ()) = course.verdict

section

variable {s s' s'' : Session σ} {trace more : Course α}

theorem Step.log_append (s : σ) (steps more : List Step) :
    Step.log s (steps ++ more) = Step.log s steps ++ Step.log (Step.after s steps) more := by
  induction steps generalizing s with
  | nil => rfl
  | cons st steps ih => exact congrArg (_ :: ·) (ih (Step.next s st))

theorem Follows.refl (s : Session σ) : Follows s s ([] : Course α) :=
  ⟨⟨[], (List.append_nil _).symm, rfl⟩, rfl, rfl⟩

theorem Follows.trans (first : Follows s s' trace) (second : Follows s' s'' more) :
    Follows s s'' (trace ++ more) := by
  obtain ⟨events, grown, seen⟩ := first.journal
  obtain ⟨later, grownOn, seenOn⟩ := second.journal
  refine ⟨⟨events ++ later, ?_, ?_⟩, ?_, ?_⟩
  · rw [grownOn, grown, List.append_assoc]
  · rw [List.filter_append, seen, seenOn, List.flatMap_append]
  · rw [Course.steps_append, Course.entries_append, Step.log_append, first.answered, ← first.store,
      second.answered]
  · rw [Course.steps_append, Step.after_append, ← first.store, second.store]

/-- Events that are added to the journal by stages that ask nothing. -/
theorem Follows.note {events : List Event} (silent : trace.entries = [])
    (seen : events.filter (!·.isLog) = trace.flatMap Stage.events) (s : Session σ) :
    Follows s (s.note events) trace := by
  refine ⟨⟨events, rfl, seen⟩, ?_, ?_⟩
  · rw [Course.steps, silent]
    rfl
  · rw [Course.steps, silent]
    rfl

/-- The observer is told of the late hooks that failed, in their order, and of nothing else. -/
theorem Follows.observed (follows : Follows s s' trace) :
    ∃ events, s'.journal = s.journal ++ events ∧
      events.filter Event.isObserved = trace.flatMap Stage.told := by
  obtain ⟨events, grown, seen⟩ := follows.journal
  refine ⟨events, grown, ?_⟩
  have stages (stage : Stage α) : stage.events.filter Event.isObserved = stage.told := by
    cases stage with
    | hook point e =>
      have told : ∀ event ∈ Stage.told (.hook point e), event.isObserved = true := by
        intro event member
        rw [Stage.told] at member
        split at member
        · cases member
        · obtain ⟨reason, -, rfl⟩ := List.mem_map.mp member
          rfl
      exact List.filter_eq_self.mpr told
    | asked entry | tried entry | refused err => rfl
  have filtered : events.filter Event.isObserved =
      (events.filter (!·.isLog)).filter Event.isObserved := by
    rw [List.filter_filter]
    refine List.filter_congr fun event _ => ?_
    cases event <;> rfl
  rw [filtered, seen, List.filter_flatMap]
  simp only [stages]

end

section

variable {s s' s'' : Session σ} {course more : Course α} {err : Error}

theorem Runs.nil (s : Session σ) (x : β) : Runs ([] : Course α) s s (.ok x : Except Error β) :=
  ⟨.refl s, rfl⟩

/-- What the answer would have been does not matter to a run that fails. -/
theorem Runs.fails (runs : Runs course s s' (.error err : Except Error β)) :
    Runs course s s' (.error err : Except Error γ) := ⟨runs.follows, runs.comes⟩

/-- A run that comes to an end well goes on with what is behind it. -/
theorem Runs.append {x : β} {result : Except Error γ}
    (first : Runs course s s' (.ok x : Except Error β)) (second : Runs more s' s'' result) :
    Runs (course ++ more) s s'' result := by
  obtain ⟨run, comes⟩ := Course.append_of_ok first.comes.symm more
  refine ⟨?_, ?_⟩
  · rw [run]
    exact first.follows.trans second.follows
  · rw [comes]
    exact second.comes

/-- A run that fails does nothing of what is behind it. -/
theorem Runs.cut (first : Runs course s s' (.error err : Except Error β)) (more : Course α) :
    Runs (course ++ more) s s' (.error err : Except Error β) := by
  obtain ⟨run, comes⟩ := Course.append_of_error first.comes.symm more
  refine ⟨?_, ?_⟩
  · rw [run]
    exact first.follows
  · rw [comes]
    rfl

/-- What was done without hooks may be done however it is answered. -/
theorem Runs.tries {trace : Course α} (follows : Follows s s' trace)
    (unhooked : ∀ stage ∈ trace, stage.isHook = false) :
    Runs trace.tries s s' (.ok () : Except Error Unit) := by
  obtain ⟨run, comes⟩ := Course.upTo_tries trace
  obtain ⟨events, grown, seen⟩ := follows.journal
  have steps : trace.tries.steps = trace.steps := by
    rw [Course.steps, Course.entries_tries]
    rfl
  refine ⟨?_, comes.symm⟩
  rw [run]
  refine ⟨⟨events, grown, ?_⟩, ?_, ?_⟩
  · rw [seen, Course.events_tries unhooked]
  · rw [steps, Course.entries_tries]
    exact follows.answered
  · rw [steps]
    exact follows.store

/-- The line of the log is no stage. -/
theorem Runs.log {result : Except Error β} (line : LogLine)
    (behind : Runs course (s.note [.log line]) s' result) : Runs course s s' result := by
  have written : Follows s (s.note [.log line]) ([] : Course α) := .note rfl rfl s
  exact ⟨written.trans behind.follows, behind.comes⟩

theorem Runs.refuse (s : Session σ) (err : Error) :
    Runs [(.refused err : Stage α)] s s (.error err : Except Error β) :=
  ⟨⟨⟨[], (List.append_nil _).symm, rfl⟩, rfl, rfl⟩, rfl⟩

end

/-! ## Requests -/

section

variable {β : Type}

/-- The session behind a step that is taken on its store. -/
def stepped (s : Session σ) (st : Step) : Session σ :=
  { s with
    store := st.next s.store
    journal := s.journal ++ .asked st.verb :: (st.reply s.store).log.map Event.log }

/-- A stage that asks the store is a step on it. -/
theorem Follows.step (s : Session σ) (st : Step) {stage : Stage α}
    (made : stage.entry? = some ⟨st, (st.reply s.store).result⟩)
    (seen : stage.events = [.asked st.verb]) : Follows s (stepped s st) [stage] := by
  have entries : Course.entries [stage] = [⟨st, (st.reply s.store).result⟩] := by
    rw [Course.entries, List.filterMap_cons, made]
    rfl
  have steps : Course.steps [stage] = [st] := by
    rw [Course.steps, entries]
    rfl
  refine ⟨⟨_, rfl, ?_⟩, ?_, ?_⟩
  · have logged : ((st.reply s.store).log.map Event.log).filter (!·.isLog) = [] := by
      simp [List.filter_eq_nil_iff, Event.isLog]
    rw [List.flatMap_singleton, seen, List.filter_cons, logged]
    rfl
  · rw [steps, entries]
    rfl
  · rw [steps]
    rfl

/-- A step whose answer counts. -/
theorem Runs.asked (s : Session σ) (st : Step) :
    Runs [(.asked ⟨st, (st.reply s.store).result⟩ : Stage α)] s (stepped s st)
      ((st.reply s.store).result.mapError StoreError.classify) := by
  have follows : Follows s (stepped s st) [(.asked ⟨st, (st.reply s.store).result⟩ : Stage α)] :=
    .step s st rfl rfl
  cases answered : (st.reply s.store).result with
  | error e | ok x =>
    rw [answered] at follows
    exact ⟨follows, rfl⟩

/-- A step whose answer does not count. -/
theorem Runs.tried (s : Session σ) (st : Step) :
    Runs [(.tried ⟨st, (st.reply s.store).result⟩ : Stage α)] s (stepped s st)
      (.ok () : Except Error Unit) := ⟨.step s st rfl rfl, rfl⟩

variable (α) in
/-- A request that is made by an operation is one stage. -/
theorem run_asked (scope : Scope) (r : Request β) (s : Session σ) :
    ∃ (answer : Except StoreError β) (s' : Session σ),
      (Action.ask scope r).run.run s = (answer.mapError StoreError.classify, s') ∧
      Runs [(.asked ⟨.ask scope r, answer⟩ : Stage α)] s s' (answer.mapError StoreError.classify) :=
  ⟨_, _, run_ask scope r s, .asked s (.ask scope r)⟩

end

/-! ## Hooks -/

section

/-- The mutation of an entity is one stage. -/
def Mutation.IsStage (m : Mutation σ α Unit) (f : Edit Error α) (stage : α → Stage α) : Prop :=
  ∀ e (s : Session σ), ∃ s', (m.runOn e).run s = (f e, s') ∧ Runs [stage e] s s' (f e).1

/-- What a hook adds to the journal is what its stage adds, whatever the log is told. -/
theorem Follows.hook {point : HookPoint} {e : α} {events : List Event}
    (seen : events.filter (!·.isLog) = Stage.events (.hook point e)) (s : Session σ) :
    Follows s (s.note events) (Course.upTo [.hook point e]) := by
  rw [Course.upTo_singleton]
  refine .note rfl ?_ s
  rw [List.flatMap_singleton]
  exact seen

theorem isStage_early (point : HookPoint) (aborts : point.aborts = true) :
    (early point : Mutation σ α Unit).IsStage (earlyEdit point) (.hook point) := by
  intro e s
  have told : Stage.told (.hook point e) = [] := if_pos aborts
  refine ⟨s.note [.hook point (Entity.toRecord e)], rfl, .hook ?_ s, ?_⟩
  · rw [Stage.events, told]
    rfl
  · rw [Course.verdict, Stage.failure?, if_pos aborts, Stage.reason?, earlyEdit, Edit.mapError]
    rcases Entity.hooks.at point e with ⟨reason | ⟨⟩, e'⟩ <;> rfl

theorem isStage_late (repo : Repository α) (point : HookPoint) (goesOn : point.aborts = false) :
    (repo.late point : Mutation σ α Unit).IsStage (lateEdit point) (.hook point) := by
  intro e s
  have stays : ¬point.aborts = true := by simp [goesOn]
  have verdict : Course.verdict [(.hook point e : Stage α)] = .ok () := by
    rw [Course.verdict, Stage.failure?, if_neg stays]
    rfl
  refine ⟨s.note (repo.lateEvents point e), repo.run_late point e s, .hook ?_ s, verdict.symm⟩
  rw [Stage.events, Stage.told, if_neg stays, Stage.reason?, lateEvents]
  rcases (Entity.hooks.at point e).1 with reason | ⟨⟩
  · cases repo.observer <;> rfl
  · rfl

/-- What is one stage on one entity is a stage on each of a list of them. -/
theorem Mutation.IsStage.each {m : Mutation σ α Unit} {f : Edit Error α} {stage : α → Stage α}
    (one : m.IsStage f stage) (es : List α) (s : Session σ) :
    ∃ s', ((Mutation.each m).runOn es).run s = (f.each es, s') ∧
      Runs (es.map stage) s s' (f.each es).1 := by
  induction es generalizing s with
  | nil => exact ⟨s, Mutation.runOn_each_nil m s, .nil s ()⟩
  | cons e es ih =>
    obtain ⟨mid, ran, runs⟩ := one e s
    rw [Edit.each]
    rcases outcome : f e with ⟨err | ⟨⟩, e'⟩
    · rw [outcome] at ran runs
      exact ⟨mid, Mutation.runOn_each_error ran, runs.cut (es.map stage)⟩
    · rw [outcome] at ran runs
      obtain ⟨s', rest, behind⟩ := ih mid
      exact ⟨s', Mutation.runOn_each_ok ran rest, runs.append behind⟩

omit [Entity α] in
/-- Where every edit succeeds each element has become what the edit makes of it. -/
theorem Edit.each_of_ok {f : Edit Error α} {es es' : List α} (done : f.each es = (.ok (), es')) :
    es' = es.map fun e => (f e).2 := by
  induction es generalizing es' with
  | nil =>
    cases done
    rfl
  | cons e es ih =>
    rw [Edit.each] at done
    rcases outcome : f e with ⟨err | ⟨⟩, e'⟩
    · rw [outcome] at done
      cases done
    · rw [outcome] at done
      obtain ⟨rest, rfl⟩ := Prod.mk.inj done
      have mapped : (f.each es).2 = es.map fun e => (f e).2 := ih (Prod.ext rest rfl)
      rw [List.map_cons, outcome, mapped]

end

end EntityStore
