import ParamQuery.Proofs.Success
import ParamQuery.Schedule

/-!
# A scheduled job calls back once, in the next turn

During a turn jobs are scheduled and cancelled, in any order, while the jobs that were ready before it are run
(`Action`).  Each action keeps `InTurn`: what was ready is called or still to be run, and the jobs of this turn wait
behind it.  So a whole turn calls what was ready at its start, in order, and leaves its own jobs to the next one
(`Loop.inTurn_turnWith`).

After any turns, the jobs of one more turn are called in the following turn, each once and in order, except those that
were cancelled; and they are called neither before it nor after it (`callbacks_of_scheduled`).
-/

namespace ParamQuery

/-- What may happen during a turn: a job is scheduled on the running loop, or cancelled by its handle, or the next of
the jobs that were ready before is run. -/
inductive Action where
  | schedule (job : Job)
  | cancel (id : Nat)
  | next

def Action.job? : Action → Option Job
  | schedule job => some job
  | _ => none

/-- The jobs that are scheduled, in order. -/
def scheduledJobs (actions : List Action) : List Job :=
  actions.filterMap Action.job?

/-- Whether job number `id` is cancelled after it was scheduled, where `first` is the number of the next job. -/
def cancels (first : Nat) : List Action → Nat → Bool
  | [], _ => false
  | .schedule _ :: actions, id => cancels (first + 1) actions id
  | .cancel k :: actions, id => decide (id < first ∧ id = k) || cancels first actions id
  | .next :: actions, id => cancels first actions id

/-- The handles of the jobs that are scheduled. -/
def newHandles (first : Nat) (actions : List Action) : List Handle :=
  ((scheduledJobs actions).zipIdx first).map fun (job, id) => ⟨id, job, cancels first actions id⟩

/-- The calls of jobs that are run in order. -/
def callbacks (handles : List Handle) : List Callback :=
  (handles.filter (!·.cancelled)).map Handle.run

namespace Loop

/-- Does what an action says while the loop is running, so that scheduling does not fail. -/
def act (l : Loop) : Action → Loop
  | .schedule job => (compileLater (some l) job).toOption.getD l
  | .cancel id => l.cancel id
  | .next => l.next

def perform (l : Loop) (actions : List Action) : Loop :=
  actions.foldl act l

/-- A turn during which this happens. -/
def turnWith (l : Loop) (actions : List Action) : Loop :=
  (l.begin.perform actions).finish

def turns (l : Loop) (history : List (List Action)) : Loop :=
  history.foldl turnWith l

end Loop

/-! ### Numbers of jobs -/

theorem Handle.id_run (h : Handle) : h.run.id = h.id := by
  unfold Handle.run
  split <;> rfl

theorem Handle.id_cancelIf (k : Nat) (h : Handle) : (h.cancelIf k).id = h.id := by
  unfold Handle.cancelIf
  split <;> rfl

theorem map_id_cancelIf (k : Nat) (handles : List Handle) :
    (handles.map (Handle.cancelIf k)).map Handle.id = handles.map Handle.id := by
  rw [List.map_map]
  exact List.map_congr_left fun h _ => h.id_cancelIf k

theorem map_cancelIf_of_notMem {k : Nat} {handles : List Handle} (h : k ∉ handles.map Handle.id) :
    handles.map (Handle.cancelIf k) = handles := by
  induction handles with
  | nil => rfl
  | cons x handles ih =>
    rw [List.map_cons, List.mem_cons, not_or] at h
    rw [List.map_cons, ih h.2, Handle.cancelIf, if_neg fun hx => h.1 hx.symm]

theorem scheduledJobs_append (as bs : List Action) :
    scheduledJobs (as ++ bs) = scheduledJobs as ++ scheduledJobs bs :=
  List.filterMap_append

theorem scheduledJobs_concat {actions : List Action} {a : Action} (h : a.job? = none) :
    scheduledJobs (actions ++ [a]) = scheduledJobs actions := by
  rw [scheduledJobs_append, scheduledJobs, scheduledJobs, List.filterMap_cons_none h]
  exact List.append_nil _

theorem cancels_append (first : Nat) (as bs : List Action) (id : Nat) :
    cancels first (as ++ bs) id = (cancels first as id || cancels (first + (scheduledJobs as).length) bs id) := by
  induction as generalizing first with
  | nil => rfl
  | cons a as ih =>
    cases a with
    | schedule job =>
      simp only [List.cons_append, cancels, ih, scheduledJobs, List.filterMap_cons, Action.job?, List.length_cons]
      congr 2
      omega
    | cancel k =>
      simp only [List.cons_append, cancels, ih, Bool.or_assoc, scheduledJobs, List.filterMap_cons, Action.job?]
    | next => simp only [List.cons_append, cancels, ih, scheduledJobs, List.filterMap_cons, Action.job?]

theorem cancels_concat {first : Nat} {actions : List Action} {a : Action} (h : ∀ k, a ≠ .cancel k) (id : Nat) :
    cancels first (actions ++ [a]) id = cancels first actions id := by
  rw [cancels_append]
  cases a with
  | schedule job => exact Bool.or_false _
  | cancel k => exact absurd rfl (h k)
  | next => exact Bool.or_false _

/-- Nobody cancels a job that is not scheduled yet. -/
theorem cancels_eq_false {first : Nat} {actions : List Action} {id : Nat}
    (h : first + (scheduledJobs actions).length ≤ id) : cancels first actions id = false := by
  induction actions generalizing first with
  | nil => rfl
  | cons a actions ih =>
    cases a with
    | schedule job =>
      simp only [scheduledJobs, List.filterMap_cons, Action.job?, List.length_cons] at h
      exact ih (by unfold scheduledJobs; omega)
    | cancel k =>
      have hnew : ¬ (id < first ∧ id = k) := by omega
      rw [cancels, decide_eq_false hnew, Bool.false_or]
      exact ih h
    | next => exact ih h

theorem map_id_newHandles (first : Nat) (actions : List Action) :
    (newHandles first actions).map Handle.id = List.range' first (scheduledJobs actions).length := by
  rw [newHandles, List.map_map]
  exact List.zipIdx_map_snd first _

theorem callbacks_cons (x : Handle) (handles : List Handle) :
    callbacks (x :: handles) = callbacks [x] ++ callbacks handles := by
  rw [callbacks, callbacks, callbacks, ← List.map_append, ← List.filter_append, List.singleton_append]

theorem callbacks_of_cancelled {x : Handle} (h : x.cancelled = true) : callbacks [x] = [] := by
  simp [callbacks, h]

theorem callbacks_of_not_cancelled {x : Handle} (h : x.cancelled = false) : callbacks [x] = [x.run] := by
  simp [callbacks, h]

theorem map_id_callbacks (handles : List Handle) :
    (callbacks handles).map Callback.id = (handles.filter (!·.cancelled)).map Handle.id := by
  rw [callbacks, List.map_map]
  exact List.map_congr_left fun h _ => h.id_run

theorem lt_of_mem_newHandles {first : Nat} {actions : List Action} {h : Handle}
    (hmem : h ∈ newHandles first actions) :
    first ≤ h.id ∧ h.id < first + (scheduledJobs actions).length := by
  have hid : h.id ∈ (newHandles first actions).map Handle.id := List.mem_map_of_mem hmem
  rwa [map_id_newHandles, List.mem_range'_1] at hid

/-! ### What an action does to the handles of its turn -/

section NewHandles

variable (first : Nat) (actions : List Action)

theorem newHandles_schedule (job : Job) :
    newHandles first (actions ++ [.schedule job]) =
      newHandles first actions ++ [⟨first + (scheduledJobs actions).length, job, false⟩] := by
  have hcancels : ∀ id, cancels first (actions ++ [.schedule job]) id = cancels first actions id :=
    cancels_concat nofun
  have hjob : scheduledJobs [.schedule job] = [job] := rfl
  simp only [newHandles, hcancels, scheduledJobs_append, hjob]
  rw [List.zipIdx_append, List.map_append, List.zipIdx_singleton, List.map_singleton,
    cancels_eq_false (Nat.le_refl _)]

theorem newHandles_next : newHandles first (actions ++ [.next]) = newHandles first actions := by
  have hcancels : ∀ id, cancels first (actions ++ [.next]) id = cancels first actions id := cancels_concat nofun
  have hjobs : scheduledJobs (actions ++ [.next]) = scheduledJobs actions := scheduledJobs_concat rfl
  simp only [newHandles, hcancels, hjobs]

theorem newHandles_cancel (k : Nat) :
    newHandles first (actions ++ [.cancel k]) =
      (newHandles first actions).map (Handle.cancelIf k) := by
  rw [newHandles, newHandles, scheduledJobs_concat rfl, List.map_map]
  apply List.map_congr_left
  rintro ⟨job, id⟩ hmem
  have hid : id < first + (scheduledJobs actions).length := by
    have hsnd := List.mem_map_of_mem (f := Prod.snd) hmem
    rw [List.zipIdx_map_snd, List.mem_range'_1] at hsnd
    exact hsnd.2
  simp only [cancels_append, cancels, Function.comp_apply, Bool.or_false, hid, true_and]
  by_cases hk : id = k
  · simp [hk, Handle.cancelIf]
  · simp [hk, Handle.cancelIf]

end NewHandles

/-! ### One turn -/

/-- What a turn has come to after some actions: these calls were made, and these jobs are still to be run. -/
structure InTurn (start : Loop) (actions : List Action) (calls : List Callback) (left : List Handle) (l : Loop) :
    Prop where
  scheduled : l.scheduled = start.scheduled + (scheduledJobs actions).length
  ready : l.ready = left ++ newHandles start.scheduled actions
  todo : l.todo = left.length
  log : l.log = start.log ++ calls
  /-- The jobs that were ready, except cancelled ones. -/
  ids : (calls.map Callback.id ++ left.map Handle.id).Sublist (start.ready.map Handle.id)
  undisturbed (h : ∀ h ∈ start.ready, .cancel h.id ∉ actions) : calls ++ callbacks left = callbacks start.ready

theorem Loop.inTurn_begin (l : Loop) : InTurn l [] [] l.ready l.begin where
  scheduled := rfl
  ready := (List.append_nil _).symm
  todo := rfl
  log := (List.append_nil _).symm
  ids := List.Sublist.refl _
  undisturbed _ := rfl

namespace InTurn

variable {start l : Loop} {actions : List Action} {calls : List Callback} {left : List Handle}

theorem schedule (h : InTurn start actions calls left l) (job : Job) :
    InTurn start (actions ++ [.schedule job]) calls left (l.schedule job) where
  scheduled := by
    rw [scheduledJobs_append, List.length_append, ← Nat.add_assoc, ← h.scheduled]
    rfl
  ready := by
    rw [newHandles_schedule, ← List.append_assoc, ← h.ready, ← h.scheduled]
    rfl
  todo := h.todo
  log := h.log
  ids := h.ids
  undisturbed hactions := h.undisturbed fun x hx hmem => hactions x hx (List.mem_append_left _ hmem)

theorem cancel (h : InTurn start actions calls left l) (k : Nat) :
    InTurn start (actions ++ [.cancel k]) calls (left.map (Handle.cancelIf k)) (l.cancel k) where
  scheduled := by
    rw [scheduledJobs_concat rfl]
    exact h.scheduled
  ready := by
    rw [newHandles_cancel, ← List.map_append, ← h.ready]
    rfl
  todo := by
    rw [List.length_map]
    exact h.todo
  log := h.log
  ids := by
    rw [map_id_cancelIf]
    exact h.ids
  undisturbed hactions := by
    have hk : k ∉ left.map Handle.id := by
      intro hmem
      obtain ⟨x, hx, rfl⟩ := List.mem_map.1 (h.ids.mem (List.mem_append_right _ hmem))
      exact hactions x hx (List.mem_append_right _ List.mem_cons_self)
    rw [map_cancelIf_of_notMem hk]
    exact h.undisturbed fun x hx hmem => hactions x hx (List.mem_append_left _ hmem)

/-- The next job is called, unless it was cancelled. -/
theorem next_cons {x : Handle} (h : InTurn start actions calls (x :: left) l) :
    InTurn start actions (calls ++ callbacks [x]) left l.next := by
  have hnext : l.next = { l with
      ready := left ++ newHandles start.scheduled actions, todo := left.length,
      log := if x.cancelled then l.log else l.log ++ [x.run] } := by
    unfold Loop.next
    rw [h.todo, h.ready]
    rfl
  rw [hnext]
  refine ⟨h.scheduled, rfl, rfl, ?_, ?_, fun hactions => ?_⟩
  · rw [← List.append_assoc, ← h.log]
    cases hx : x.cancelled with
    | true => rw [callbacks_of_cancelled hx, List.append_nil, if_pos rfl]
    | false => rw [callbacks_of_not_cancelled hx, if_neg Bool.false_ne_true]
  · have hids : ((callbacks [x]).map Callback.id).Sublist [x.id] := by
      rw [map_id_callbacks]
      exact List.Sublist.map _ List.filter_sublist
    rw [List.map_append, List.append_assoc]
    exact ((List.Sublist.refl _).append (hids.append (List.Sublist.refl _))).trans h.ids
  · rw [List.append_assoc, ← callbacks_cons]
    exact h.undisturbed hactions

/-- When no job is left, nothing more happens. -/
theorem next_nil (h : InTurn start actions calls [] l) : l.next = l := by
  unfold Loop.next
  rw [h.todo]
  rfl

theorem noAction (h : InTurn start actions calls left l) : InTurn start (actions ++ [.next]) calls left l where
  scheduled := by
    rw [scheduledJobs_concat rfl]
    exact h.scheduled
  ready := by
    rw [newHandles_next]
    exact h.ready
  todo := h.todo
  log := h.log
  ids := h.ids
  undisturbed hactions := h.undisturbed fun x hx hmem => hactions x hx (List.mem_append_left _ hmem)

theorem act (h : InTurn start actions calls left l) (a : Action) :
    ∃ calls left, InTurn start (actions ++ [a]) calls left (l.act a) := by
  cases a with
  | schedule job => exact ⟨_, _, h.schedule job⟩
  | cancel k => exact ⟨_, _, h.cancel k⟩
  | next =>
    cases left with
    | nil => exact ⟨_, _, by rw [Loop.act, h.next_nil]; exact h.noAction⟩
    | cons x left => exact ⟨_, _, h.next_cons.noAction⟩

theorem perform (h : InTurn start actions calls left l) (more : List Action) :
    ∃ calls left, InTurn start (actions ++ more) calls left (l.perform more) := by
  induction more generalizing actions calls left l with
  | nil => exact ⟨_, _, by rw [List.append_nil]; exact h⟩
  | cons a more ih =>
    obtain ⟨calls, left, hact⟩ := h.act a
    rw [List.append_cons]
    exact ih hact

/-- At the end of the turn no job is left: by induction on the jobs that are. -/
theorem finish (h : InTurn start actions calls left l) : ∃ calls, InTurn start actions calls [] l.finish := by
  rw [Loop.finish, h.todo]
  induction left generalizing calls l with
  | nil => exact ⟨_, h⟩
  | cons x left ih => exact ih h.next_cons

end InTurn

theorem Loop.inTurn_turnWith (l : Loop) (actions : List Action) :
    ∃ calls, InTurn l actions calls [] (l.turnWith actions) := by
  obtain ⟨calls, left, h⟩ := l.inTurn_begin.perform actions
  exact h.finish

/-! ### Many turns -/

namespace Loop

/-- The jobs that are ready or were called were scheduled before. -/
structure Numbered (l : Loop) : Prop where
  ready {h : Handle} (hmem : h ∈ l.ready) : h.id < l.scheduled
  log {c : Callback} (hmem : c ∈ l.log) : c.id < l.scheduled

theorem numbered_new : new.Numbered where
  ready := nofun
  log := nofun

theorem turns_cons (l : Loop) (actions : List Action) (history : List (List Action)) :
    l.turns (actions :: history) = (l.turnWith actions).turns history :=
  rfl

end Loop

namespace InTurn

variable {start l : Loop} {actions : List Action} {calls : List Callback} {left : List Handle}

/-- Only jobs that were ready at its start are called in a turn. -/
theorem exists_ready (h : InTurn start actions calls left l) {c : Callback} (hc : c ∈ calls) :
    ∃ x ∈ start.ready, x.id = c.id :=
  List.mem_map.1 (h.ids.mem (List.mem_append_left _ (List.mem_map_of_mem hc)))

theorem lt_scheduled (h : InTurn start actions calls left l) (hstart : start.Numbered) {c : Callback}
    (hc : c ∈ l.log) : c.id < start.scheduled := by
  rw [h.log] at hc
  rcases List.mem_append.1 hc with hbefore | hcalls
  · exact hstart.log hbefore
  · obtain ⟨x, hx, hid⟩ := h.exists_ready hcalls
    rw [← hid]
    exact hstart.ready hx

theorem numbered (h : InTurn start actions calls [] l) (hstart : start.Numbered) : l.Numbered where
  ready hmem := by
    rw [h.ready, List.nil_append] at hmem
    rw [h.scheduled]
    exact (lt_of_mem_newHandles hmem).2
  log hmem := by
    rw [h.scheduled]
    exact Nat.lt_add_right _ (h.lt_scheduled hstart hmem)

end InTurn

namespace Loop

theorem Numbered.turns {l : Loop} (h : l.Numbered) (history : List (List Action)) : (l.turns history).Numbered := by
  induction history generalizing l with
  | nil => exact h
  | cons actions history ih =>
    obtain ⟨calls, hturn⟩ := l.inTurn_turnWith actions
    rw [turns_cons]
    exact ih (hturn.numbered h)

/-- Jobs with lesser numbers than those in the queue are called no more. -/
theorem exists_calls_of_turns {l : Loop} {bound : Nat} (hready : ∀ h ∈ l.ready, bound ≤ h.id)
    (hscheduled : bound ≤ l.scheduled) (later : List (List Action)) :
    ∃ calls, (l.turns later).log = l.log ++ calls ∧ ∀ c ∈ calls, bound ≤ c.id := by
  induction later generalizing l with
  | nil => exact ⟨[], (List.append_nil _).symm, nofun⟩
  | cons actions later ih =>
    obtain ⟨calls, hturn⟩ := l.inTurn_turnWith actions
    have hnew : ∀ h ∈ (l.turnWith actions).ready, bound ≤ h.id := by
      intro h hmem
      rw [hturn.ready, List.nil_append] at hmem
      exact Nat.le_trans hscheduled (lt_of_mem_newHandles hmem).1
    obtain ⟨rest, hrest, hbound⟩ := ih hnew (by rw [hturn.scheduled]; exact Nat.le_add_right_of_le hscheduled)
    refine ⟨calls ++ rest, ?_, ?_⟩
    · rw [turns_cons, hrest, hturn.log, List.append_assoc]
    · intro c hc
      rcases List.mem_append.1 hc with hcalls | hlater
      · obtain ⟨x, hx, hid⟩ := hturn.exists_ready hcalls
        rw [← hid]
        exact hready x hx
      · exact hbound c hlater

end Loop

/-! ### The jobs of one turn -/

/-- The call gives the statement of the job, or else its fault. -/
def Callback.Reports (c : Callback) (job : Job) : Prop :=
  match compile job.registry job.limits job.params with
  | .ok statement => c.error = none ∧ c.result = some statement
  | .error fault => c.error = some fault ∧ c.result = none

theorem Handle.run_reports (h : Handle) : h.run.Reports h.job := by
  unfold Handle.run Callback.Reports
  cases compile h.job.registry h.job.limits h.job.params with
  | ok statement => exact ⟨rfl, rfl⟩
  | error fault => exact ⟨rfl, rfl⟩

section Jobs

variable {first : Nat} {actions : List Action}

/-- A call is that of the job with its number. -/
theorem exists_job_of_mem_callbacks {c : Callback} (hc : c ∈ callbacks (newHandles first actions)) :
    ∃ job, (scheduledJobs actions)[c.id - first]? = some job ∧ c.Reports job := by
  obtain ⟨h, hmem, rfl⟩ := List.mem_map.1 hc
  obtain ⟨⟨job, id⟩, hjob, rfl⟩ := List.mem_map.1 (List.mem_filter.1 hmem).1
  obtain ⟨-, hget⟩ := List.mem_zipIdx_iff_le_and_getElem?_sub.1 hjob
  exact ⟨job, by rw [Handle.id_run]; exact hget, Handle.run_reports _⟩

/-- The jobs that are not cancelled are called, in order. -/
theorem map_id_callbacks_newHandles :
    (callbacks (newHandles first actions)).map Callback.id =
      (List.range' first (scheduledJobs actions).length).filter fun id => !cancels first actions id := by
  rw [map_id_callbacks, ← map_id_newHandles, List.filter_map, newHandles, List.filter_map, List.filter_map]
  rfl

end Jobs

/-- The jobs that are scheduled during a turn are not called in it, whatever has happened so far or to its end.  In the
following turn those that were not cancelled are called once each, in order, with the statement or the fault of the
job, unless they are cancelled only then; and in later turns none of them is called. -/
theorem callbacks_of_scheduled (history : List (List Action)) (actions following : List Action)
    (later : List (List Action))
    (hfollowing : ∀ id, .cancel id ∈ following →
      id ∉ List.range' (Loop.new.turns history).scheduled (scheduledJobs actions).length) :
    let l := Loop.new.turns history
    let ids := List.range' l.scheduled (scheduledJobs actions).length
    let next := (l.turnWith actions).turnWith following
    (∀ done, done <+: actions → ∀ c ∈ (l.begin.perform done).log, c.id ∉ ids) ∧
    (∀ c ∈ (l.turnWith actions).log, c.id ∉ ids) ∧
    (∃ calls, next.log = (l.turnWith actions).log ++ calls ∧
      calls.map Callback.id = ids.filter (fun id => !cancels l.scheduled actions id) ∧
      ∀ c ∈ calls, ∃ job, (scheduledJobs actions)[c.id - l.scheduled]? = some job ∧ c.Reports job) ∧
    ∃ calls, (next.turns later).log = next.log ++ calls ∧ ∀ c ∈ calls, c.id ∉ ids := by
  intro l ids next
  have hnumbered : l.Numbered := Loop.numbered_new.turns history
  have hmem : ∀ id, id ∈ ids ↔ l.scheduled ≤ id ∧ id < l.scheduled + (scheduledJobs actions).length :=
    fun id => List.mem_range'_1
  -- At any moment of the turn only jobs that were ready at its start have been called, which have lesser numbers.
  have hbefore : ∀ {done calls left moment}, InTurn l done calls left moment → ∀ c ∈ moment.log, c.id ∉ ids :=
    fun h c hc hid => Nat.not_lt.2 ((hmem c.id).1 hid).1 (h.lt_scheduled hnumbered hc)
  obtain ⟨calls, hturn⟩ := l.inTurn_turnWith actions
  have hready : (l.turnWith actions).ready = newHandles l.scheduled actions := hturn.ready
  obtain ⟨called, hnext⟩ := (l.turnWith actions).inTurn_turnWith following
  have hcalled : called = callbacks (newHandles l.scheduled actions) := by
    have hundisturbed := hnext.undisturbed fun x hx hcancel => by
      rw [hready] at hx
      exact hfollowing x.id hcancel ((hmem x.id).2 (lt_of_mem_newHandles hx))
    rw [hready] at hundisturbed
    exact (List.append_nil called).symm.trans hundisturbed
  refine ⟨fun done _ => ?_, hbefore hturn, ⟨called, hnext.log, ?_, ?_⟩, ?_⟩
  · obtain ⟨_, _, hdone⟩ := l.inTurn_begin.perform done
    exact hbefore hdone
  · rw [hcalled]
    exact map_id_callbacks_newHandles
  · rw [hcalled]
    exact fun c hc => exists_job_of_mem_callbacks hc
  · -- What waits after the following turn was scheduled in it.
    have hbound : ∀ h ∈ next.ready, l.scheduled + (scheduledJobs actions).length ≤ h.id := by
      intro h hh
      rw [hnext.ready, List.nil_append, hturn.scheduled] at hh
      exact (lt_of_mem_newHandles hh).1
    have hscheduled : l.scheduled + (scheduledJobs actions).length ≤ next.scheduled := by
      rw [hnext.scheduled, hturn.scheduled]
      exact Nat.le_add_right _ _
    obtain ⟨rest, hrest, hlate⟩ := Loop.exists_calls_of_turns hbound hscheduled later
    exact ⟨rest, hrest, fun c hc hid => Nat.not_le.2 ((hmem c.id).1 hid).2 (hlate c hc)⟩

/-- Of three jobs the second one fails, and the third one is cancelled. -/
theorem callbacks_of_scheduled_people :
    ∃ name age order : Job, name.params = [("fields", .text "name")] ∧ age.params = [("where", .text "age=x")] ∧
      order.params = [("orderBy", .text "age")] ∧
      ∃ moment : Loop, moment = Loop.new.turnWith [.schedule name, .schedule age, .schedule order, .cancel 2] ∧
        ∃ calls later, (moment.turnWith []).log = moment.log ++ calls ∧ calls.map Callback.id = [0, 1] ∧
          (∀ c ∈ calls, ∃ job, [name, age, order][c.id]? = some job ∧ c.Reports job) ∧
          ((moment.turnWith []).turns [[]]).log = (moment.turnWith []).log ++ later ∧
          ∀ c ∈ later, c.id ∉ [0, 1, 2] := by
  let job (params : Params) : Job := ⟨people, params, .ofRaw .unset .null⟩
  let name := job [("fields", .text "name")]
  let age := job [("where", .text "age=x")]
  let order := job [("orderBy", .text "age")]
  obtain ⟨-, -, ⟨calls, hlog, hids, hjobs⟩, later, hlater, hnone⟩ :=
    callbacks_of_scheduled [] [.schedule name, .schedule age, .schedule order, .cancel 2] [] [[]] nofun
  exact ⟨name, age, order, rfl, rfl, rfl, _, rfl, calls, later, hlog, hids, hjobs, hlater, hnone⟩

end ParamQuery
