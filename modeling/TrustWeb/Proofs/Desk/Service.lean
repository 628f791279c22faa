import Mathlib
import TrustWeb.Web.Desk

/-! # Service at a desk

Requests are served in the order in which they were pushed, each of them once: one that can be
carried out gives one result, one that fails gives none. A failure uses up the request that failed
and no other. -/

namespace TrustWeb

namespace Request

/-! ## One request -/

/-- What an operation gives for named arguments, told without looking up the operation. -/
inductive Calls (w : Web) (arguments : List (String × Json)) : Json → Answer → Prop where
  | authenticate {f v}
      (hnames : fits (arguments.map (·.1)) ["fingerprint", "user_id"]
        ["fingerprint", "user_id", "email"] = true)
      (hf : (value arguments "fingerprint").toFingerprint = .ok f)
      (hv : w.authenticate f (.ofJson (value arguments "user_id"))
        (value arguments "email").isTrue = .ok v) :
      Calls w arguments (.text "authenticate") (.verdict v)
  | identify {f l}
      (hnames : fits (arguments.map (·.1)) ["fingerprint"] ["fingerprint"] = true)
      (hf : (value arguments "fingerprint").toFingerprint = .ok f) (hl : w.identify f = .ok l) :
      Calls w arguments (.text "identify") (.listing l)
  | list {l} (hnames : fits (arguments.map (·.1)) [] [] = true) (hl : w.list = .ok l) :
      Calls w arguments (.text "list") (.listing l)
  | lookup {l}
      (hnames : fits (arguments.map (·.1)) ["user_id"] ["user_id", "email"] = true)
      (hl : w.lookup (.ofJson (value arguments "user_id")) (value arguments "email").isTrue =
        .ok l) :
      Calls w arguments (.text "lookup") (.listing l)
  | path {root items others c}
      (hnames : fits (arguments.map (·.1)) ["root", "fingerprints", "user_id"]
        ["root", "fingerprints", "user_id"] = true)
      (hroot : (value arguments "root").toFingerprint = .ok root)
      (hitems : (value arguments "fingerprints").toItems = .ok items)
      (hothers : Json.toFingerprints items = .ok others)
      (hc : w.checkPath root others (.ofJson (value arguments "user_id")) = .ok c) :
      Calls w arguments (.text "path") (.pathCheck c)

/-- What calling the operation of a request gives. -/
def Gives (w : Web) (q : Request) (a : Answer) : Prop :=
  ∃ arguments, q.named = .ok arguments ∧ Calls w arguments q.operation a

variable {w : Web} {q : Request} {a : Answer}

theorem answer_eq_ok_iff_perform : q.answer w = .ok a ↔
    ∃ needed known arguments, signatureOf? q.operation = some (needed, known) ∧
      q.named = .ok arguments ∧ fits (arguments.map (·.1)) needed known = true ∧
      perform w q.operation arguments = .ok a := by
  unfold answer
  cases signatureOf? q.operation with
  | none => simp
  | some names =>
      cases q.named with
      | error fault => simp
      | ok arguments =>
          obtain ⟨needed, known⟩ := names
          cases hnames : fits (arguments.map (·.1)) needed known with
          | false => simp [hnames]
          | true => simp [hnames]

theorem calls_of_perform {operation : Json} {needed known : List String}
    {arguments : List (String × Json)} (hknown : signatureOf? operation = some (needed, known))
    (hnames : fits (arguments.map (·.1)) needed known = true)
    (h : perform w operation arguments = .ok a) : Calls w arguments operation a := by
  unfold signatureOf? at hknown
  split at hknown
  all_goals cases hknown
  · simp only [perform, bind_eq_ok_iff] at h
    obtain ⟨f, hf, v, hv, ha⟩ := h
    cases ha
    exact .authenticate hnames hf hv
  · simp only [perform, bind_eq_ok_iff] at h
    obtain ⟨f, hf, l, hl, ha⟩ := h
    cases ha
    exact .identify hnames hf hl
  · simp only [perform, bind_eq_ok_iff] at h
    obtain ⟨l, hl, ha⟩ := h
    cases ha
    exact .list hnames hl
  · simp only [perform, bind_eq_ok_iff] at h
    obtain ⟨l, hl, ha⟩ := h
    cases ha
    exact .lookup hnames hl
  · simp only [perform, bind_eq_ok_iff] at h
    obtain ⟨root, hroot, items, hitems, others, hothers, c, hc, ha⟩ := h
    cases ha
    exact .path hnames hroot hitems hothers hc

theorem answer_eq_ok_iff : q.answer w = .ok a ↔ q.Gives w a := by
  rw [answer_eq_ok_iff_perform]
  constructor
  · rintro ⟨needed, known, arguments, hknown, hnamed, hnames, hperform⟩
    exact ⟨arguments, hnamed, calls_of_perform hknown hnames hperform⟩
  · rintro ⟨arguments, hnamed, hcalls⟩
    obtain ⟨id, operation, given⟩ := q
    cases hcalls with
    | authenticate hnames hf hv =>
        refine ⟨_, _, arguments, rfl, hnamed, hnames, ?_⟩
        simp only [perform, bind_eq_ok_iff]
        exact ⟨_, hf, _, hv, rfl⟩
    | identify hnames hf hl =>
        refine ⟨_, _, arguments, rfl, hnamed, hnames, ?_⟩
        simp only [perform, bind_eq_ok_iff]
        exact ⟨_, hf, _, hl, rfl⟩
    | list hnames hl =>
        refine ⟨_, _, arguments, rfl, hnamed, hnames, ?_⟩
        simp only [perform, bind_eq_ok_iff]
        exact ⟨_, hl, rfl⟩
    | lookup hnames hl =>
        refine ⟨_, _, arguments, rfl, hnamed, hnames, ?_⟩
        simp only [perform, bind_eq_ok_iff]
        exact ⟨_, hl, rfl⟩
    | path hnames hroot hitems hothers hc =>
        refine ⟨_, _, arguments, rfl, hnamed, hnames, ?_⟩
        simp only [perform, bind_eq_ok_iff]
        exact ⟨_, hroot, _, hitems, _, hothers, _, hc, rfl⟩

/-- The operations that there are. -/
def operations : List String := ["authenticate", "identify", "list", "lookup", "path"]

/-- A request for any other operation fails with that operation. -/
theorem answer_of_unknown (h : ∀ name ∈ operations, q.operation ≠ .text name) :
    q.answer w = .error (.operation q.operation.shown) := by
  have hunknown : signatureOf? q.operation = none := by
    unfold signatureOf?
    split
    all_goals first
      | rfl
      | next hoperation => exact absurd hoperation (h _ (by decide))
  rw [answer, hunknown]

end Request

namespace Desk

/-! ## One call -/

/-- A result is that of a request, under the name of the request. -/
def Answers (w : Web) (q : Request) (result : Json × Answer) : Prop :=
  result.1 = q.id ∧ q.Gives w result.2

/-- What a call to process the requests of a desk leaves behind and gives. Either all requests are
carried out, or those before one that fails: that one is used up, and those after it stay. -/
inductive Processes (w : Web) (d : Desk) : Desk → Except Fault Nat → Prop where
  | all {rs} (hall : List.Forall₂ (Answers w) d.requests rs) :
      Processes w d ⟨[], d.results ++ rs⟩ (.ok d.requests.length)
  | stopped {done q later rs fault} (hqueue : d.requests = done ++ q :: later)
      (hdone : List.Forall₂ (Answers w) done rs) (hfault : q.answer w = .error fault)
      (hunknown : (∀ name ∈ Request.operations, q.operation ≠ .text name) →
        fault = .operation q.operation.shown) :
      Processes w d ⟨later, d.results ++ rs⟩ (.error fault)

variable {w : Web} {d : Desk}

theorem run_cases (w : Web) (results : List (Json × Answer)) (done : Nat) (qs : List Request) :
    (∃ rs, List.Forall₂ (Answers w) qs rs ∧
      run w results done qs = (⟨[], results ++ rs⟩, .ok (done + qs.length))) ∨
    ∃ front q later rs fault, qs = front ++ q :: later ∧ List.Forall₂ (Answers w) front rs ∧
      q.answer w = .error fault ∧
      run w results done qs = (⟨later, results ++ rs⟩, .error fault) := by
  induction qs generalizing results done with
  | nil => exact .inl ⟨[], .nil, by simp [run]⟩
  | cons q rest ih =>
      cases hanswer : q.answer w with
      | error fault =>
          exact .inr ⟨[], q, rest, [], fault, rfl, .nil, hanswer, by simp [run, hanswer]⟩
      | ok a =>
          have hgives : Answers w q (q.id, a) := ⟨rfl, Request.answer_eq_ok_iff.mp hanswer⟩
          rcases ih (results ++ [(q.id, a)]) (done + 1) with
            ⟨rs, hrest, hrun⟩ | ⟨front, p, later, rs, fault, rfl, hfront, hfault, hrun⟩
          · refine .inl ⟨(q.id, a) :: rs, .cons hgives hrest, ?_⟩
            simp only [run, hanswer, hrun, List.append_assoc, List.singleton_append,
              List.length_cons, Nat.add_right_comm done 1, Nat.add_assoc]
          · refine .inr ⟨q :: front, p, later, (q.id, a) :: rs, fault, rfl, .cons hgives hfront,
              hfault, ?_⟩
            simp [run, hanswer, hrun]

theorem processes_process (w : Web) (d : Desk) :
    Processes w d (d.process w).1 (d.process w).2 := by
  unfold process
  rcases run_cases w d.results 0 d.requests with
    ⟨rs, hall, hrun⟩ | ⟨front, q, later, rs, fault, hqueue, hfront, hfault, hrun⟩
  · rw [hrun, Nat.zero_add]
    exact .all hall
  · rw [hrun]
    refine .stopped hqueue hfront hfault fun hunknown => ?_
    rw [Request.answer_of_unknown hunknown] at hfault
    exact (Except.error.inj hfault).symm

/-- A call uses up at least one request, if there is any. -/
theorem Processes.length_lt {d' : Desk} {outcome : Except Fault Nat} (h : Processes w d d' outcome)
    (hne : d.requests ≠ []) : d'.requests.length < d.requests.length := by
  cases h with
  | all hall => exact List.length_pos_of_ne_nil hne
  | stopped hqueue hdone hfault hunknown =>
      rw [hqueue]
      simp
      omega

/-! ## Requests that are used up -/

/-- Requests in order, with their results: one of each request that can be carried out, and none of
the others. -/
inductive Served (w : Web) : List Request → List (Json × Answer) → Prop where
  | nil : Served w [] []
  | given {q a qs rs} (h : q.Gives w a) (hrest : Served w qs rs) :
      Served w (q :: qs) ((q.id, a) :: rs)
  | failed {q qs rs} (h : ∀ a, ¬q.Gives w a) (hrest : Served w qs rs) : Served w (q :: qs) rs

theorem Served.append {qs qs' : List Request} {rs rs' : List (Json × Answer)} (h : Served w qs rs)
    (h' : Served w qs' rs') : Served w (qs ++ qs') (rs ++ rs') := by
  induction h with
  | nil => exact h'
  | given hgives _ ih => exact .given hgives ih
  | failed hfails _ ih => exact .failed hfails ih

theorem served_of_forall₂ {qs : List Request} {rs : List (Json × Answer)}
    (h : List.Forall₂ (Answers w) qs rs) : Served w qs rs := by
  induction h with
  | nil => exact .nil
  | @cons q r qs rs hanswers _ ih =>
      obtain ⟨id, a⟩ := r
      obtain ⟨rfl, hgives⟩ := hanswers
      exact .given hgives ih

/-- What a call takes from the requests is served by what it adds to the results. -/
theorem Processes.served {d' : Desk} {outcome : Except Fault Nat} (h : Processes w d d' outcome) :
    ∃ used rs, d.requests = used ++ d'.requests ∧ d'.results = d.results ++ rs ∧
      Served w used rs := by
  cases h with
  | all hall => exact ⟨d.requests, _, by simp, rfl, served_of_forall₂ hall⟩
  | @stopped done q later rs fault hqueue hdone hfault hunknown =>
      have hfails : Served w [q] [] := by
        refine .failed (fun a ha => ?_) .nil
        rw [Request.answer_eq_ok_iff.mpr ha] at hfault
        cases hfault
      refine ⟨done ++ [q], rs, by simpa using hqueue, rfl, ?_⟩
      simpa using (served_of_forall₂ hdone).append hfails

/-! ## All events -/

/-- Something that is done at a desk. -/
inductive Event where
  | push (q : Request)
  | process
  | pull

/-- A desk, with the requests that were pushed to it and the results that were pulled from it. -/
structure History where
  desk : Desk := {}
  pushed : List Request := []
  pulled : List (Json × Answer) := []

namespace History

/-- The history with one more event. Pulling from a desk without results changes nothing. -/
def after (w : Web) (h : History) : Event → History
  | .push q => { h with desk := h.desk.push q, pushed := h.pushed ++ [q] }
  | .process => { h with desk := (h.desk.process w).1 }
  | .pull =>
    match h.desk.pull? with
    | none => h
    | some (result, desk) => { h with desk, pulled := h.pulled ++ [result] }

/-- The history of events at a new desk. -/
def ofEvents (w : Web) (events : List Event) : History := events.foldl (after w) {}

/-- All results so far, those that were pulled first. -/
def results (h : History) : List (Json × Answer) := h.pulled ++ h.desk.results

/-- What was pushed is used up, and served by the results, or waits, in the order of the pushes. -/
def Accounted (w : Web) (h : History) : Prop :=
  ∃ used, h.pushed = used ++ h.desk.requests ∧ Served w used h.results

variable {h : History}

theorem Accounted.after (hh : h.Accounted w) (e : Event) : (h.after w e).Accounted w := by
  obtain ⟨used, hpushed, hserved⟩ := hh
  cases e with
  | push q => exact ⟨used, by simp [History.after, Desk.push, hpushed], hserved⟩
  | process =>
      obtain ⟨more, rs, hrequests, hresults, hmore⟩ := (processes_process w h.desk).served
      refine ⟨used ++ more, ?_, ?_⟩
      · simp only [History.after, hpushed, hrequests, List.append_assoc]
      · have happend := hserved.append hmore
        simpa only [results, History.after, hresults, List.append_assoc] using happend
  | pull =>
      unfold History.after pull?
      cases hresults : h.desk.results with
      | nil => exact ⟨used, hpushed, hserved⟩
      | cons r rest =>
          refine ⟨used, hpushed, ?_⟩
          simpa [results, hresults] using hserved

theorem accounted_ofEvents (w : Web) (events : List Event) : (ofEvents w events).Accounted w := by
  have hrun : ∀ h : History, h.Accounted w → (events.foldl (History.after w) h).Accounted w := by
    induction events with
    | nil => exact fun h hh => hh
    | cons e rest ih => exact fun h hh => ih _ (hh.after e)
  exact hrun {} ⟨[], rfl, .nil⟩

theorem ofEvents_append (w : Web) (events more : List Event) :
    ofEvents w (events ++ more) = more.foldl (History.after w) (ofEvents w events) :=
  List.foldl_append

/-- As many calls as requests wait use up all of them, and push none. -/
theorem foldl_process (w : Web) {n : Nat} (hn : h.desk.requests.length ≤ n) :
    ((List.replicate n Event.process).foldl (History.after w) h).desk.requests = [] ∧
      ((List.replicate n Event.process).foldl (History.after w) h).pushed = h.pushed := by
  induction n generalizing h with
  | zero => exact ⟨List.length_eq_zero_iff.mp (Nat.le_zero.mp hn), rfl⟩
  | succ n ih =>
      rw [List.replicate_succ, List.foldl_cons]
      refine ih (h := h.after w .process) ?_
      by_cases hne : h.desk.requests = []
      · have hempty : (h.after w .process).desk.requests = [] := by
          simp [History.after, process, hne, run]
        simp [hempty]
      · have := (processes_process w h.desk).length_lt hne
        simp only [History.after]
        omega

end History

/-- Whatever is done at a desk, the results so far are those of the requests used up, in the order
in which these were pushed, one of each that can be carried out; the other requests wait in order.
A call to process them uses up those up to the first that fails, and no others. As many calls as
requests wait leave none that was pushed unserved. -/
theorem serves_ofEvents (w : Web) (events : List Event) :
    (∃ used, (History.ofEvents w events).pushed =
        used ++ (History.ofEvents w events).desk.requests ∧
      Served w used (History.ofEvents w events).results) ∧
    Processes w (History.ofEvents w events).desk
      ((History.ofEvents w events).desk.process w).1
      ((History.ofEvents w events).desk.process w).2 ∧
    Served w (History.ofEvents w events).pushed (History.ofEvents w (events ++
      List.replicate (History.ofEvents w events).desk.requests.length .process)).results := by
  refine ⟨History.accounted_ofEvents w events, processes_process w _, ?_⟩
  obtain ⟨used, hpushed, hserved⟩ := History.accounted_ofEvents w
    (events ++ List.replicate (History.ofEvents w events).desk.requests.length .process)
  rw [History.ofEvents_append] at hpushed hserved ⊢
  obtain ⟨hempty, hsame⟩ := History.foldl_process w (le_refl
    (History.ofEvents w events).desk.requests.length)
  rw [hempty, hsame, List.append_nil] at hpushed
  rwa [hpushed]

end Desk

end TrustWeb
