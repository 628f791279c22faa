import Mathlib
import TrustWeb.Proofs.Server.Answers

/-! # Runs of a server

A run goes on to the end of its input if every line is one that the server can deal with, and stops
at the first line that is not. What one line leaves behind for the next is no more than the network
that was read for it. So a line that is passed over leaves no trace, any other line only its own
answer, and the answers stand in the order of the requests.

The lines are taken to escape surrogates in pairs only. A surrogate that is escaped by itself is no
character: an answer that repeats it cannot be written as UTF-8, and the attempt ends the run. Here
it is read as the replacement character, and the answer is written, so that nothing below is said of
lines whose answers repeat such a surrogate. -/

namespace TrustWeb.Server

variable {s s' : Server} {around : Surroundings} {t : Turn} {before after rest turns : List Turn}

/-! ## One line after another -/

theorem run_cons_ok {reply : Option Json} (h : s.respond t.around t.line = (s', .ok reply)) :
    s.run (t :: rest) =
      { s'.run rest with answers := reply.toList ++ (s'.run rest).answers } := by
  rw [run, h]

theorem run_cons_error {fault : Fault} (h : s.respond t.around t.line = (s', .error fault)) :
    s.run (t :: rest) = { server := s', unread := rest, fault := some fault } := by
  rw [run, h]

/-- A run goes on to its end exactly if every line is suited. -/
theorem run_fault_eq_none_iff :
    (s.run turns).fault = none ↔ ∀ t ∈ turns, Suited t.line := by
  induction turns generalizing s with
  | nil => simp [run]
  | cons t rest ih =>
      rw [List.forall_mem_cons, ← respond_eq_ok_iff s t.around]
      rcases houtcome : s.respond t.around t.line with ⟨s', fault | reply⟩
      · simp [run_cons_error houtcome]
      · simp [run_cons_ok houtcome, ih]

theorem run_unread (h : ∀ t ∈ turns, Suited t.line) : (s.run turns).unread = [] := by
  induction turns generalizing s with
  | nil => rfl
  | cons t rest ih =>
      obtain ⟨ht, hrest⟩ := List.forall_mem_cons.mp h
      obtain ⟨reply, hreply⟩ := (respond_eq_ok_iff _ t.around).mpr ht
      rw [run_cons_ok (Prod.ext rfl hreply)]
      exact ih hrest

/-- A run over suited lines goes on with those that follow. -/
theorem run_append (h : ∀ t ∈ before, Suited t.line) :
    s.run (before ++ after) =
      { (s.run before).server.run after with
        answers := (s.run before).answers ++ ((s.run before).server.run after).answers } := by
  induction before generalizing s with
  | nil => rfl
  | cons t rest ih =>
      obtain ⟨ht, hrest⟩ := List.forall_mem_cons.mp h
      obtain ⟨reply, hreply⟩ := (respond_eq_ok_iff _ t.around).mpr ht
      have houtcome : s.respond t.around t.line =
        ((s.respond t.around t.line).1, .ok reply) := Prod.ext rfl hreply
      rw [List.cons_append, run_cons_ok houtcome, run_cons_ok houtcome, ih hrest]
      simp

/-! ## What a line leaves behind -/

/-- A server after a line: as before, or with the network that was read for a call. -/
inductive After (s : Server) (around : Surroundings) : Server → Prop where
  | same : After s around s
  | kept {tool d} (h : s.currentDescription around tool = .ok d) :
      After s around { s with description := some d }

theorem after_call (s : Server) (around : Surroundings) (name arguments : Json) :
    After s around (s.call around name arguments).1 := by
  have hcalled := called_call s around name arguments
  generalize s.call around name arguments = outcome at hcalled
  obtain ⟨s', result⟩ := outcome
  cases hcalled with
  | unknownTool _ | arguments _ _ | noDescription _ _ => exact .same
  | noWeb _ hd _ | raised _ hd _ _ | given _ hd _ _ => exact .kept hd

theorem after_answer (s : Server) (around : Surroundings) (request : List (String × Json)) :
    After s around (s.answer around request).1 := by
  have hanswered := answered_answer s around request
  generalize s.answer around request = outcome at hanswered
  obtain ⟨s', reply⟩ := outcome
  cases hanswered with
  | called _ _ => exact after_call s around _ _
  | silent _ | refused _ _ | told _ _ _ => exact .same

theorem after_respond (s : Server) (around : Surroundings) (line : String) :
    After s around (s.respond around line).1 := by
  unfold respond
  split
  · exact .same
  · exact .same
  · exact after_answer s around _
  · exact .same

/-! ## Servers with the same network -/

/-- Servers that are configured alike and would find the same network. -/
structure Alike (s s' : Server) (around : Surroundings) : Prop where
  configuration : s.configuration = s'.configuration
  description : ∀ tool, s.currentDescription around tool = s'.currentDescription around tool

/-- Outcomes that are the same, at servers that stay as they are or become the same. -/
def Parallel {α : Type} (s s' : Server) (o o' : Server × α) : Prop :=
  o.2 = o'.2 ∧ (o.1 = s ∧ o'.1 = s' ∨ o.1 = o'.1)

theorem Parallel.same {α : Type} (s s' : Server) (a : α) : Parallel s s' (s, a) (s', a) :=
  ⟨rfl, .inl ⟨rfl, rfl⟩⟩

theorem Alike.carryOut (h : Alike s s' around) (c : Call) :
    Parallel s s' (s.carryOut around c) (s'.carryOut around c) := by
  unfold Server.carryOut
  rw [← h.description, ← h.configuration]
  split
  · exact .same s s' _
  · exact ⟨rfl, .inr rfl⟩

theorem Alike.call (h : Alike s s' around) (name arguments : Json) :
    Parallel s s' (s.call around name arguments) (s'.call around name arguments) := by
  unfold Server.call
  split
  · exact .same s s' _
  · split
    · exact .same s s' _
    · exact h.carryOut _

theorem Alike.answer (h : Alike s s' around) (request : List (String × Json)) :
    Parallel s s' (s.answer around request) (s'.answer around request) := by
  unfold Server.answer
  simp only
  split
  · exact .same s s' _
  · exact .same s s' _
  · split
    · exact .same s s' _
    · next name arguments _ =>
        obtain ⟨hresult, hserver⟩ := h.call name arguments
        exact ⟨by simp [hresult], hserver⟩
  · exact .same s s' _
  · exact .same s s' _

theorem Alike.respond (h : Alike s s' around) (line : String) :
    Parallel s s' (s.respond around line) (s'.respond around line) := by
  unfold Server.respond
  split
  · exact .same s s' _
  · exact .same s s' _
  · exact h.answer _
  · exact .same s s' _

/-- Servers that would find the same network at every line answer the lines alike. -/
theorem run_alike (h : ∀ t ∈ turns, Alike s s' t.around) :
    (s.run turns).answers = (s'.run turns).answers ∧
      (s.run turns).unread = (s'.run turns).unread ∧
      (s.run turns).fault = (s'.run turns).fault := by
  induction turns with
  | nil => exact ⟨rfl, rfl, rfl⟩
  | cons t rest ih =>
      obtain ⟨ht, hrest⟩ := List.forall_mem_cons.mp h
      obtain ⟨hreply, hservers⟩ := ht.respond t.line
      rcases houtcome : s.respond t.around t.line with ⟨s₁, fault | reply⟩
      all_goals
        rcases houtcome' : s'.respond t.around t.line with ⟨s₂, fault' | reply'⟩
        all_goals
          rw [houtcome, houtcome'] at hreply hservers
          cases hreply
      · simp [run_cons_error houtcome, run_cons_error houtcome']
      · rw [run_cons_ok houtcome, run_cons_ok houtcome']
        rcases hservers with ⟨rfl, rfl⟩ | hsame
        · obtain ⟨hanswers, hunread, hfault⟩ := ih hrest
          exact ⟨by simp [hanswers], hunread, hfault⟩
        · obtain rfl : s₁ = s₂ := hsame
          exact ⟨rfl, rfl, rfl⟩

/-- The network that the server finds now, if it finds one, it would find at each of the lines that
follow as well. -/
def Steady (s : Server) (t : Turn) (after : List Turn) : Prop :=
  ∀ tool d, s.currentDescription t.around tool = .ok d →
    ∀ u ∈ after, ∀ tool', s.currentDescription u.around tool' = .ok d

theorem After.alike (h : After s t.around s') (hsteady : s.Steady t after) :
    ∀ u ∈ after, Alike s s' u.around := by
  intro u hu
  cases h with
  | same => exact ⟨rfl, fun _ => rfl⟩
  | kept hd => exact ⟨rfl, fun tool => hsteady _ _ hd u hu tool⟩

/-- A run over some lines, one of them picked out, in three parts. -/
theorem run_append_cons {reply : Option Json} (hbefore : ∀ u ∈ before, Suited u.line)
    (houtcome : (s.run before).server.respond t.around t.line = (s', .ok reply)) :
    s.run (before ++ t :: after) =
      { s'.run after with
        answers := (s.run before).answers ++ (reply.toList ++ (s'.run after).answers) } := by
  rw [run_append hbefore, run_cons_ok houtcome]

/-- A run stops at the first line that is not suited. -/
theorem run_unsuited (hbefore : ∀ u ∈ before, Suited u.line) (ht : ¬Suited t.line) :
    (s.run (before ++ t :: after)).written = (s.run before).written ∧
      (s.run (before ++ t :: after)).unread = after := by
  rw [run_append hbefore]
  rcases houtcome : (s.run before).server.respond t.around t.line with ⟨s', fault | reply⟩
  · rw [run_cons_error houtcome]
    simp [Run.written]
  · exact absurd ((respond_eq_ok_iff _ _).mp ⟨reply, by rw [houtcome]⟩) ht

/-- A server for which no network is configured. -/
def unconfigured : Server := { configuration := ⟨none, "", 120, .authentication, by decide⟩ }

/-- A line that comes when there is no network file. -/
def lineAlone (line : String) : Turn := ⟨⟨.error .missing, ⟨0, none⟩⟩, line⟩

/-- A request of a client that introduces itself. -/
def greeting : Turn := lineAlone "\x7b\"id\": 1, \"method\": \"initialize\"\x7d"

/-- A request for the sizes of the network. -/
def inquiry : Turn :=
  lineAlone ("\x7b\"id\": 2, \"method\": \"tools/call\", " ++
    "\"params\": \x7b\"name\": \"wot_stats\"\x7d\x7d")

theorem parse_greeting : Json.parse greeting.line =
    .ok (.object [("id", .number 1), ("method", .text "initialize")]) := by
  have hid : Json.Short 1 := by decide
  exact Json.parse_of_line (by simp [Table.keys, hid]) rfl

theorem parse_inquiry : Json.parse inquiry.line =
    .ok (.object [("id", .number 2), ("method", .text "tools/call"),
      ("params", .object [("name", .text "wot_stats")])]) := by
  have hid : Json.Short 2 := by decide
  exact Json.parse_of_line (by simp [Table.keys, hid]) rfl

theorem suited_greeting : Suited greeting.line :=
  .request parse_greeting fun h => by simp [methodOf, requestField, Table.find?] at h

theorem suited_inquiry : Suited inquiry.line :=
  .request parse_inquiry fun _ => ⟨_, rfl, trivial⟩

theorem parse_broken : Json.parse "\x7b" = .error .malformed := by
  simp [Json.parse, Json.skipSpace, Json.isSpace, Json.readValue, Json.readFields]

theorem written_greeting (s : Server) (rest : List Turn) : (s.run (greeting :: rest)).written =
    (message (.number 1) ("result", introduction)).line :: (s.run rest).written := by
  rw [run_cons_ok (respond_request parse_greeting)]
  rfl

/-- A run comes to the end of its input exactly if every line is suited. A malformed line leaves no
trace, whatever the server has come to by then. Any other suited line has no more than its own
answer: the lines after it are answered as they would be without it, provided that they would find
the network that was found for it, if one was. At a line that is not suited the run stops, with all
that follows unread. No line is to have an answer that repeats a surrogate which it escapes by
itself: the run would end there. -/
theorem run_survives (s : Server) (turns : List Turn) :
    ((s.run turns).fault = none ∧ (s.run turns).unread = [] ↔ ∀ t ∈ turns, Suited t.line) ∧
    ∀ before t after, turns = before ++ t :: after → (∀ u ∈ before, Suited u.line) →
      (Json.parse t.line = .error .malformed → s.run turns = s.run (before ++ after)) ∧
      (Suited t.line → (s.run before).server.Steady t after →
        ∃ own back, own.length ≤ 1 ∧
          (s.run turns).written = (s.run before).written ++ own ++ back ∧
          (s.run (before ++ after)).written = (s.run before).written ++ back ∧
          (s.run turns).unread = (s.run (before ++ after)).unread ∧
          (s.run turns).fault = (s.run (before ++ after)).fault) ∧
      (¬Suited t.line →
        (s.run turns).written = (s.run before).written ∧ (s.run turns).unread = after) := by
  refine ⟨⟨fun h => run_fault_eq_none_iff.mp h.1, fun h => ⟨run_fault_eq_none_iff.mpr h,
    run_unread h⟩⟩, ?_⟩
  rintro before t after rfl hbefore
  refine ⟨fun hmalformed => ?_, fun ht hsteady => ?_, fun ht => ?_⟩
  · rw [run_append_cons hbefore (respond_malformed hmalformed), run_append hbefore]
    rfl
  · obtain ⟨reply, hreply⟩ := (respond_eq_ok_iff _ t.around).mpr ht
    have halike := (after_respond _ t.around t.line).alike hsteady
    obtain ⟨hanswers, hunread, hfault⟩ := run_alike halike
    rw [run_append_cons hbefore (Prod.ext rfl hreply), run_append hbefore]
    refine ⟨reply.toList.map (·.line), ((s.run before).server.run after).written, ?_, ?_, ?_,
      hunread.symm, hfault.symm⟩
    · cases reply <;> simp
    · simp [Run.written, hanswers]
    · simp [Run.written]
  · exact run_unsuited hbefore ht

/-- After a broken line, a call that fails for want of a network and a greeting are answered as if
it had not been there, and the greeting as if the call had not been there. -/
theorem run_survives_unconfigured :
    (unconfigured.run [inquiry, greeting]).fault = none ∧
    unconfigured.run [lineAlone "\x7b", inquiry, greeting] =
      unconfigured.run [inquiry, greeting] ∧
    ∃ own back, own.length ≤ 1 ∧ (unconfigured.run [inquiry, greeting]).written = own ++ back ∧
      (unconfigured.run [greeting]).written = back := by
  have hcalls := run_survives unconfigured [inquiry, greeting]
  have hbroken := run_survives unconfigured [lineAlone "\x7b", inquiry, greeting]
  refine ⟨(hcalls.1.mpr (by simp [suited_inquiry, suited_greeting])).1,
    (hbroken.2 [] _ _ rfl (by simp)).1 parse_broken, ?_⟩
  obtain ⟨own, back, hown, hwith, hwithout, -, -⟩ :=
    (hcalls.2 [] inquiry [greeting] rfl (by simp)).2.1 suited_inquiry fun _ _ h => nomatch h
  exact ⟨own, back, hown, hwith, hwithout⟩

/-- A list in place of a request stops the run, and the greeting after it is not answered. -/
theorem run_stops_at_list :
    (unconfigured.run [lineAlone "[]", greeting]).fault = some (.attribute "list" "get") ∧
    (unconfigured.run [lineAlone "[]", greeting]).written = [] ∧
    (unconfigured.run [greeting]).written =
      [(message (.number 1) ("result", introduction)).line] := by
  have hparse : Json.parse (lineAlone "[]").line = .ok (.array []) :=
    Json.parse_of_line (by simp) rfl
  have hrespond : unconfigured.respond (lineAlone "[]").around (lineAlone "[]").line =
      (unconfigured, .error (.attribute "list" "get")) := by
    rw [respond, hparse]
    rfl
  rw [run_cons_error hrespond, written_greeting]
  exact ⟨rfl, rfl, rfl⟩

/-! ## One answer for each request -/

/-- What is written for some lines, from one server to another: nothing for a line that is not
answered, and for any other line the answer of the server as it is by then. -/
inductive Serves : Server → List Turn → List String → Server → Prop where
  | nil (s : Server) : Serves s [] [] s
  | silent {s s' : Server} {t : Turn} {rest : List Turn} {lines : List String}
      (h : Silent t.line) (hrest : Serves s rest lines s') : Serves s (t :: rest) lines s'
  | answered {s s' : Server} {t : Turn} {rest : List Turn} {request : List (String × Json)}
      {written : String} {lines : List String} (hparse : Json.parse t.line = .ok (.object request))
      (hmethod : methodOf request ≠ .text "notifications/initialized")
      (hanswers : s.Answers t.around request written)
      (hrest : Serves (s.respond t.around t.line).1 rest lines s') :
      Serves s (t :: rest) (written :: lines) s'

theorem serves_run (h : ∀ t ∈ turns, Suited t.line) :
    Serves s turns (s.run turns).written (s.run turns).server := by
  induction turns generalizing s with
  | nil => exact .nil s
  | cons t rest ih =>
      obtain ⟨ht, hrest⟩ := List.forall_mem_cons.mp h
      cases ht with
      | malformed hparse =>
          rw [run_cons_ok (respond_malformed hparse)]
          exact .silent (.malformed hparse) (ih hrest)
      | @request request hparse hcall =>
          by_cases hmethod : methodOf request = .text "notifications/initialized"
          · rw [run_cons_ok ((respond_request hparse).trans (answer_initialized hmethod))]
            exact .silent (.initialized hparse hmethod) (ih hrest)
          · obtain ⟨content, -, hreply⟩ :=
              exists_answer s t.around hcall hmethod
            have hrespond : (s.respond t.around t.line).2 =
                .ok (some (message (idOf request) content)) :=
              (congrArg Prod.snd (respond_request hparse)).trans hreply
            rw [run_cons_ok (Prod.ext rfl hrespond)]
            exact .answered hparse hmethod (answers_answer hparse hreply) (ih hrest)

/-- Every line that is wellformed is dealt with, and the lines that are written are the answers to
the requests, in their order: one to each request but the notification that a client is ready. An
answer is a single line of JSON with the id of its request, and with either a result or an error;
the result of a call tells of an error exactly if the call fails. No line is to have an answer that
repeats a surrogate which it escapes by itself: that answer could not be written. -/
theorem run_serves (s : Server) (turns : List Turn) (h : ∀ t ∈ turns, Wellformed t.line) :
    (s.run turns).fault = none ∧ (s.run turns).unread = [] ∧
      Serves s turns (s.run turns).written (s.run turns).server := by
  have hsuited : ∀ t ∈ turns, Suited t.line := fun t ht => (h t ht).suited
  exact ⟨run_fault_eq_none_iff.mpr hsuited, run_unread hsuited, serves_run hsuited⟩

/-- A broken line, a call that fails for want of a network, and a greeting. -/
theorem run_serves_unconfigured :
    (∀ t ∈ [lineAlone "\x7b", inquiry, greeting], Wellformed t.line) ∧
    (unconfigured.run [lineAlone "\x7b", inquiry, greeting]).fault = none ∧
    Serves unconfigured [lineAlone "\x7b", inquiry, greeting]
      (unconfigured.run [lineAlone "\x7b", inquiry, greeting]).written
      (unconfigured.run [lineAlone "\x7b", inquiry, greeting]).server := by
  have hwellformed : ∀ t ∈ [lineAlone "\x7b", inquiry, greeting], Wellformed t.line := by
    simp only [List.forall_mem_cons]
    refine ⟨.malformed parse_broken, .request parse_inquiry ?_, .request parse_greeting ?_, ?_⟩
    · simp [Table.find?]
    · simp [Table.find?]
    · simp
  obtain ⟨hfault, -, hserves⟩ :=
    run_serves unconfigured [lineAlone "\x7b", inquiry, greeting] hwellformed
  exact ⟨hwellformed, hfault, hserves⟩

/-- A number that is too long in an object stops the run, and neither the object nor the greeting
after it is answered. -/
theorem run_stops_at_overlong :
    (unconfigured.run [lineAlone ("\x7b" ++ Json.printedText "n" ++ ": " ++
      String.ofList (List.replicate 4301 '9') ++ "\x7d"), greeting]).fault =
        some (.numeralLength 4301) ∧
    (unconfigured.run [lineAlone ("\x7b" ++ Json.printedText "n" ++ ": " ++
      String.ofList (List.replicate 4301 '9') ++ "\x7d"), greeting]).written = [] := by
  generalize hline : lineAlone ("\x7b" ++ Json.printedText "n" ++ ": " ++
    String.ofList (List.replicate 4301 '9') ++ "\x7d") = overlong
  have hnines (n : Nat) : Json.Whole (List.replicate (n + 1) '9') := by
    rw [List.replicate_succ]
    refine ⟨⟨List.cons_ne_nil _ _, ?_⟩, fun h => by cases h⟩
    rw [List.forall_mem_cons]
    exact ⟨rfl, fun c hc => by rw [List.eq_of_mem_replicate hc]; rfl⟩
  have hlength : (List.replicate 4301 '9').length = 4301 := List.length_replicate
  have hparse : Json.parse overlong.line = .error (.numeralLength 4301) := by
    rw [← hline]
    exact (Json.parse_overlong "n" (hnines 4300) (by rw [hlength]; decide)).trans (by rw [hlength])
  have hrespond : unconfigured.respond overlong.around overlong.line =
      (unconfigured, .error (.numeralLength 4301)) := by
    rw [respond, hparse]
  rw [run_cons_error hrespond]
  exact ⟨rfl, rfl⟩

/-! ## Requests without an id -/

/-- A request without an id is not answered if it says that the client is ready, whatever the server
has come to by then, nor if it calls a tool by what cannot be looked up, which stops the run. Any
other request without an id is answered as if its id were null, unless the answer would repeat a
surrogate that the request escapes by itself, which could not be written. -/
theorem run_notification {request params : List (String × Json)} (s : Server)
    (before after : List Turn) (hbefore : ∀ u ∈ before, Suited u.line)
    (hparse : Json.parse t.line = .ok (.object request))
    (hid : Table.contains request "id" = false)
    (hparams : parametersOf request = .object params) :
    (methodOf request = .text "notifications/initialized" →
      s.run (before ++ t :: after) = s.run (before ++ after)) ∧
    (methodOf request = .text "tools/call" → ¬IsName (nameIn params) →
      (s.run (before ++ t :: after)).written = (s.run before).written ∧
        (s.run (before ++ t :: after)).unread = after) ∧
    (methodOf request ≠ .text "notifications/initialized" →
      (methodOf request = .text "tools/call" → IsName (nameIn params)) →
      ∃ content s', IsContent content ∧ After (s.run before).server t.around s' ∧
        (s.run (before ++ t :: after)).written =
          (s.run before).written ++ (message .null content).line :: (s'.run after).written) := by
  refine ⟨fun hmethod => ?_, fun hmethod hname => ?_, fun hmethod hname => ?_⟩
  · rw [run_append_cons hbefore ((respond_request hparse).trans (answer_initialized hmethod)),
      run_append hbefore]
    rfl
  · refine run_unsuited hbefore fun hsuited => ?_
    obtain ⟨fields, hfields, hisName⟩ := hsuited.callable hparse hmethod
    rw [hparams] at hfields
    cases hfields
    exact hname hisName
  · have hcall : methodOf request = .text "tools/call" → Callable (parametersOf request) :=
      fun h => ⟨params, hparams, hname h⟩
    obtain ⟨content, hcontent, hreply⟩ :=
      exists_answer (s.run before).server t.around hcall hmethod
    have hnull : idOf request = .null := by
      have hnone : Table.find? request "id" = none := by simpa [Table.contains] using hid
      rw [idOf, requestField, hnone]
      rfl
    rw [hnull] at hreply
    refine ⟨content, _, hcontent, after_answer _ t.around request, ?_⟩
    rw [run_append_cons hbefore ((respond_request hparse).trans (Prod.ext rfl hreply))]
    simp [Run.written]

/-- A client says that it is ready. -/
def ready : Turn := lineAlone "\x7b\"method\": \"notifications/initialized\"\x7d"

/-- A client says that a request of its is no longer wanted. -/
def cancellation : Turn := lineAlone "\x7b\"method\": \"notifications/cancelled\"\x7d"

theorem parse_ready : Json.parse ready.line =
    .ok (.object [("method", .text "notifications/initialized")]) :=
  Json.parse_of_line (by simp [Table.keys]) rfl

theorem parse_cancellation : Json.parse cancellation.line =
    .ok (.object [("method", .text "notifications/cancelled")]) :=
  Json.parse_of_line (by simp [Table.keys]) rfl

/-- After a greeting, it leaves no trace that the client says that it is ready, but its saying that
a request is no longer wanted is answered. -/
theorem run_notification_unconfigured :
    unconfigured.run [greeting, ready, greeting] = unconfigured.run [greeting, greeting] ∧
    ∃ content s', IsContent content ∧
      After (unconfigured.run [greeting]).server cancellation.around s' ∧
      (unconfigured.run [greeting, cancellation]).written =
        (unconfigured.run [greeting]).written ++ [(message .null content).line] := by
  have hgreeting : ∀ u ∈ [greeting], Suited u.line := by simp [suited_greeting]
  have hready := run_notification unconfigured [greeting] [greeting] hgreeting parse_ready rfl rfl
  have hcancel := run_notification unconfigured [greeting] [] hgreeting parse_cancellation rfl rfl
  obtain ⟨content, s', hcontent, hafter, hwritten⟩ :=
    hcancel.2.2 (by simp [methodOf, requestField, Table.find?])
      fun h => by simp [methodOf, requestField, Table.find?] at h
  exact ⟨hready.1 rfl, content, s', hcontent, hafter, hwritten⟩

/-- The notification that a request is no longer wanted is answered. -/
theorem run_answers_cancellation : (unconfigured.run [cancellation]).written =
    ["\x7b\"jsonrpc\": \"2.0\", \"id\": null, \"error\": \x7b\"code\": -32601, " ++
      "\"message\": \"Method not found: notifications/cancelled\"\x7d\x7d"] := by
  rw [run_cons_ok (respond_request parse_cancellation)]
  rfl

end TrustWeb.Server
