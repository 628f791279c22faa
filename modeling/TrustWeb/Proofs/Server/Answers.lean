import Mathlib
import TrustWeb.Proofs.Json.RoundTrip
import TrustWeb.Server

/-! # Answers to single lines

What a server makes of one line, in whatever state it is: which lines it can deal with, what it
answers to a request, and when the call of a tool fails. -/

namespace TrustWeb.Server

open Json (Printable)

variable {s : Server} {around : Surroundings} {name arguments : Json}

/-! ## Calls -/

/-- The call that a name and arguments make. -/
def Makes (name arguments : Json) (c : Call) : Prop :=
  ∃ tool, namedTool? name = some tool ∧ Call.make tool arguments = .ok c

/-- The web that a call of a tool is carried out on. -/
def Loads (s : Server) (around : Surroundings) (tool : Tool) (w : Web) : Prop :=
  ∃ d, s.currentDescription around tool = .ok d ∧ webOf s.configuration d = .ok w

/-- A call is carried out and gives some fields. -/
def Gives (s : Server) (around : Surroundings) (name arguments : Json)
    (fields : List (String × Json)) : Prop :=
  ∃ c w, Makes name arguments c ∧ s.Loads around c.tool w ∧ c.perform w = .ok fields

/-- What makes a call fail: there is no such tool, there is no web to carry it out on, the path to
be checked is empty, or the tool itself fails, over its arguments or in its work. -/
inductive Fails (s : Server) (around : Surroundings) (name arguments : Json) : Prop where
  | unknownTool (h : namedTool? name = none)
  | notLoaded {c} (hcall : Makes name arguments c) (h : ∀ w, ¬s.Loads around c.tool w)
  | emptyPath {subject} (hcall : Makes name arguments (.path [] subject))
  | arguments {tool fault} (htool : namedTool? name = some tool)
      (h : Call.make tool arguments = .error fault)
  | raised {c w fault} (hcall : Makes name arguments c) (hload : s.Loads around c.tool w)
      (h : c.perform w = .error fault)

theorem Makes.unique {c c' : Call} (h : Makes name arguments c) (h' : Makes name arguments c') :
    c = c' := by
  obtain ⟨tool, htool, hmake⟩ := h
  obtain ⟨tool', htool', hmake'⟩ := h'
  obtain rfl : tool = tool' := Option.some.inj (htool.symm.trans htool')
  exact Except.ok.inj (hmake.symm.trans hmake')

theorem Loads.unique {tool : Tool} {w w' : Web} (h : s.Loads around tool w)
    (h' : s.Loads around tool w') : w = w' := by
  obtain ⟨d, hd, hw⟩ := h
  obtain ⟨d', hd', hw'⟩ := h'
  obtain rfl : d = d' := Except.ok.inj (hd.symm.trans hd')
  exact Except.ok.inj (hw.symm.trans hw')

/-- What a call comes to: the server afterwards, and the result. A description that was read is
kept, whatever becomes of the call. -/
inductive Called (s : Server) (around : Surroundings) (name arguments : Json) :
    Server → CallResult → Prop where
  | unknownTool (h : namedTool? name = none) :
      Called s around name arguments s (.error (.unknownTool name))
  | arguments {tool fault} (htool : namedTool? name = some tool)
      (h : Call.make tool arguments = .error fault) :
      Called s around name arguments s (.error (.failed tool fault))
  | noDescription {c fault} (hcall : Makes name arguments c)
      (h : s.currentDescription around c.tool = .error fault) :
      Called s around name arguments s (.error fault)
  | noWeb {c d fault} (hcall : Makes name arguments c)
      (hd : s.currentDescription around c.tool = .ok d)
      (h : webOf s.configuration d = .error fault) :
      Called s around name arguments { s with description := some d } (.error (.roots fault))
  | raised {c d w fault} (hcall : Makes name arguments c)
      (hd : s.currentDescription around c.tool = .ok d) (hw : webOf s.configuration d = .ok w)
      (h : c.perform w = .error fault) :
      Called s around name arguments { s with description := some d }
        (.error (.failed c.tool fault))
  | given {c d w fields} (hcall : Makes name arguments c)
      (hd : s.currentDescription around c.tool = .ok d) (hw : webOf s.configuration d = .ok w)
      (h : c.perform w = .ok fields) :
      Called s around name arguments { s with description := some d } (.ok fields)

theorem called_call (s : Server) (around : Surroundings) (name arguments : Json) :
    Called s around name arguments (s.call around name arguments).1
      (s.call around name arguments).2 := by
  unfold call
  split
  · next htool => exact .unknownTool htool
  · next tool htool =>
      split
      · next fault hmake => exact .arguments htool hmake
      · next c hmake =>
          have hcall : Makes name arguments c := ⟨tool, htool, hmake⟩
          unfold carryOut
          split
          · next fault hd => exact .noDescription hcall hd
          · next d hd =>
              simp only
              split
              · next fault hw => exact .noWeb hcall hd hw
              · next w hw =>
                  split
                  · next fault hperform => exact .raised hcall hd hw hperform
                  · next fields hperform => exact .given hcall hd hw hperform

/-- Whoever asks is told of an error for every fault. -/
theorem contains_error_fields (fault : CallFault) : Table.contains fault.fields "error" = true := by
  unfold CallFault.fields
  split <;> rfl

/-- What a tool gives tells of no error. -/
theorem contains_error_perform {c : Call} {w : Web} {fields : List (String × Json)}
    (h : c.perform w = .ok fields) : Table.contains fields "error" = false := by
  cases c with
  | authenticate fingerprint subject byEmail =>
      simp only [Call.perform, Verdict.fields, bind_eq_ok_iff, map_eq_ok_iff] at h
      obtain ⟨f, -, v, -, _, ⟨percentage, -, rfl⟩, text, -, h⟩ := h
      cases h
      rfl
  | identify fingerprint =>
      simp only [Call.perform, bind_eq_ok_iff] at h
      obtain ⟨f, -, l, -, text, -, h⟩ := h
      cases h
      rfl
  | list =>
      obtain ⟨l, -, rfl⟩ := map_eq_ok_iff.mp h
      rfl
  | lookup subject byEmail =>
      simp only [Call.perform, bind_eq_ok_iff] at h
      obtain ⟨l, -, text, -, h⟩ := h
      cases h
      rfl
  | path chain subject =>
      cases chain with
      | nil => cases h
      | cons root others =>
          simp only [Call.perform, Call.checkChain, bind_eq_ok_iff] at h
          obtain ⟨f, -, fs, -, c, -, h⟩ := h
          cases h
          rfl
  | statistics =>
      cases h
      rfl

theorem Fails.not_gives {fields : List (String × Json)} (hfails : s.Fails around name arguments) :
    ¬s.Gives around name arguments fields := by
  rintro ⟨c, w, hcall, hload, hperform⟩
  cases hfails with
  | unknownTool hnone =>
      obtain ⟨tool, htool, -⟩ := hcall
      rw [htool] at hnone
      cases hnone
  | arguments htool hmake =>
      obtain ⟨tool', htool', hmake'⟩ := hcall
      rw [htool] at htool'
      cases htool'
      rw [hmake] at hmake'
      cases hmake'
  | notLoaded hcall' hnone =>
      cases hcall.unique hcall'
      exact hnone w hload
  | emptyPath hcall' =>
      cases hcall.unique hcall'
      cases hperform
  | raised hcall' hload' hfault =>
      cases hcall.unique hcall'
      cases hload.unique hload'
      rw [hperform] at hfault
      cases hfault

/-- A call that has no result fails, and one that has a result is carried out. -/
theorem call_cases (s : Server) (around : Surroundings) (name arguments : Json) :
    (∃ fault, (s.call around name arguments).2 = .error fault ∧ s.Fails around name arguments) ∨
      ∃ fields, (s.call around name arguments).2 = .ok fields ∧
        s.Gives around name arguments fields := by
  have hcalled := called_call s around name arguments
  generalize s.call around name arguments = outcome at hcalled
  obtain ⟨s', result⟩ := outcome
  simp only at hcalled ⊢
  cases hcalled with
  | unknownTool h => exact .inl ⟨_, rfl, .unknownTool h⟩
  | arguments htool h => exact .inl ⟨_, rfl, .arguments htool h⟩
  | noDescription hcall h =>
      refine .inl ⟨_, rfl, .notLoaded hcall ?_⟩
      rintro w ⟨d, hd, -⟩
      rw [h] at hd
      cases hd
  | noWeb hcall hd h =>
      refine .inl ⟨_, rfl, .notLoaded hcall ?_⟩
      rintro w ⟨d', hd', hw⟩
      rw [hd] at hd'
      cases hd'
      rw [h] at hw
      cases hw
  | raised hcall hd hw h => exact .inl ⟨_, rfl, .raised hcall ⟨_, hd, hw⟩ h⟩
  | given hcall hd hw h => exact .inr ⟨_, rfl, _, _, hcall, ⟨_, hd, hw⟩, h⟩

/-- Whoever asks is told of an error exactly if the call fails, and of none exactly if it is carried
out. -/
theorem contains_error_call (s : Server) (around : Surroundings) (name arguments : Json) :
    (Table.contains (fieldsOf (s.call around name arguments).2) "error" = true ↔
      s.Fails around name arguments) ∧
    (Table.contains (fieldsOf (s.call around name arguments).2) "error" = false ↔
      ∃ fields, s.Gives around name arguments fields) := by
  rcases call_cases s around name arguments with
    ⟨fault, hresult, hfails⟩ | ⟨fields, hresult, hgives⟩
  · have herror := contains_error_fields fault
    rw [hresult, fieldsOf, herror]
    exact ⟨iff_of_true rfl hfails, iff_of_false (by simp) fun ⟨_, h⟩ => hfails.not_gives h⟩
  · have hnone : Table.contains fields "error" = false := by
      obtain ⟨c, w, -, -, hperform⟩ := hgives
      exact contains_error_perform hperform
    rw [hresult, fieldsOf, hnone]
    exact ⟨iff_of_false (by simp) fun h => h.not_gives hgives, iff_of_true rfl ⟨fields, hgives⟩⟩

/-! ## Answers -/

theorem printable_introduction : Printable introduction := by
  simp [introduction, Table.keys]

theorem printable_resultJson (result : CallResult) : Printable (resultJson result) := by
  simp [resultJson, Table.keys]

theorem printable_unknownMethod (method : Json) : Printable (unknownMethod method) := by
  have hcode : Json.Short (-32601) := by decide
  simp [unknownMethod, Table.keys, hcode]

theorem Parameter.printable_schema (p : Parameter) : Printable p.schema := by
  cases hkind : p.kind <;> simp [Parameter.schema, hkind, Table.keys]

theorem Tool.nodup_parameters (t : Tool) : (t.parameters.map (·.name)).Nodup := by
  cases t <;> decide

theorem Tool.printable_inputSchema (t : Tool) : Printable t.inputSchema := by
  have hkeys : Table.keys (t.parameters.map fun p => (p.name, p.schema)) =
      t.parameters.map (·.name) := by simp [Table.keys]
  have hproperties : Printable (.object (t.parameters.map fun p => (p.name, p.schema))) := by
    rw [Json.printable_object_iff, hkeys]
    exact ⟨t.nodup_parameters, by simp [Parameter.printable_schema]⟩
  have hrequired : ∀ v ∈ (t.parameters.filter (·.isRequired)).map fun p => Json.text p.name,
      Printable v := by
    intro v hv
    obtain ⟨p, -, rfl⟩ := List.mem_map.mp hv
    exact .text p.name
  unfold Tool.inputSchema
  simp only
  split
  · simp [Table.keys, hproperties]
  · simpa [Table.keys, hproperties] using hrequired

theorem Tool.printable_description (t : Tool) : Printable t.description := by
  simp [Tool.description, Table.keys, t.printable_inputSchema]

/-- What an answer consists of besides the id: a result or an error. -/
structure IsContent (content : String × Json) : Prop where
  kind : content.1 = "result" ∨ content.1 = "error"
  printable : Printable content.2

/-- What is answered to a request, told by its method. Only the call of a tool changes the server,
and only the name of the tool can keep it from answering. -/
inductive Answered (s : Server) (around : Surroundings) (request : List (String × Json)) :
    Server → Except Fault (Option Json) → Prop where
  | silent (hmethod : methodOf request = .text "notifications/initialized") :
      Answered s around request s (.ok none)
  | called {tool given} (hmethod : methodOf request = .text "tools/call")
      (hparams : callParameters (parametersOf request) = .ok (tool, given)) :
      Answered s around request (s.call around tool given).1
        (.ok (some (message (idOf request) ("result", resultJson (s.call around tool given).2))))
  | refused {fault} (hmethod : methodOf request = .text "tools/call")
      (hparams : callParameters (parametersOf request) = .error fault) :
      Answered s around request s (.error fault)
  | told {content} (hcall : methodOf request ≠ .text "tools/call")
      (hsilent : methodOf request ≠ .text "notifications/initialized") (h : IsContent content) :
      Answered s around request s (.ok (some (message (idOf request) content)))

theorem answered_answer (s : Server) (around : Surroundings) (request : List (String × Json)) :
    Answered s around request (s.answer around request).1 (s.answer around request).2 := by
  unfold answer
  split
  · next hmethod =>
      exact .told (by simp [hmethod]) (by simp [hmethod]) ⟨.inl rfl, printable_introduction⟩
  · next hmethod =>
      refine .told (by simp [hmethod]) (by simp [hmethod]) ⟨.inl rfl, ?_⟩
      simp [Table.keys, Tool.printable_description]
  · next hmethod =>
      split
      · next hparams => exact .refused hmethod hparams
      · next hparams => exact .called hmethod hparams
  · next hmethod => exact .silent hmethod
  · next hinitialize hlist hcall hsilent =>
      exact .told hcall hsilent ⟨.inr rfl, printable_unknownMethod _⟩

/-! ## Lines -/

/-- A value that can be looked up among the names of tools: neither a list nor an object. -/
def IsName : Json → Prop
  | .array _ | .object _ => False
  | _ => True

/-- The name of the tool in the parameters of a call. -/
def nameIn (params : List (String × Json)) : Json := requestField params "name" (.text "")

/-- The arguments in the parameters of a call. -/
def argumentsIn (params : List (String × Json)) : Json :=
  requestField params "arguments" (.object [])

/-- Parameters that name a tool. -/
def Callable (params : Json) : Prop :=
  ∃ fields, params = .object fields ∧ IsName (nameIn fields)

/-- A line that a server can deal with: text that is no JSON, or an object, whose parameters have
to name a tool if it is a call of one. -/
inductive Suited (line : String) : Prop where
  | malformed (h : Json.parse line = .error .malformed)
  | request {request} (h : Json.parse line = .ok (.object request))
      (hcall : methodOf request = .text "tools/call" → Callable (parametersOf request))

theorem Suited.callable {line : String} {request : List (String × Json)} (h : Suited line)
    (hparse : Json.parse line = .ok (.object request))
    (hmethod : methodOf request = .text "tools/call") : Callable (parametersOf request) := by
  cases h with
  | malformed hmalformed =>
      rw [hparse] at hmalformed
      cases hmalformed
  | request hparse' hcall =>
      rw [hparse] at hparse'
      cases hparse'
      exact hcall hmethod

theorem callParameters_eq_ok_iff {params : Json} :
    (∃ p, callParameters params = .ok p) ↔ Callable params := by
  cases params with
  | object fields =>
      simp only [callParameters, Callable, ← nameIn.eq_1]
      cases hname : nameIn fields <;> simp [IsName, hname]
  | _ => simp [callParameters, Callable]

theorem answer_eq_ok_iff (s : Server) (around : Surroundings) {request : List (String × Json)} :
    (∃ reply, (s.answer around request).2 = .ok reply) ↔
      (methodOf request = .text "tools/call" → Callable (parametersOf request)) := by
  have hanswered := answered_answer s around request
  generalize s.answer around request = outcome at hanswered
  obtain ⟨s', reply⟩ := outcome
  simp only at hanswered ⊢
  cases hanswered with
  | silent hmethod => simp [hmethod]
  | called hmethod hparams => simp [hmethod, ← callParameters_eq_ok_iff, hparams]
  | refused hmethod hparams => simp [hmethod, ← callParameters_eq_ok_iff, hparams]
  | told hcall hsilent h => simp [hcall]

theorem answer_initialized {request : List (String × Json)}
    (h : methodOf request = .text "notifications/initialized") :
    s.answer around request = (s, .ok none) := by
  rw [answer, h]
  rfl

/-- Every other request that can be dealt with has an answer. -/
theorem exists_answer (s : Server) (around : Surroundings) {request : List (String × Json)}
    (hcall : methodOf request = .text "tools/call" → Callable (parametersOf request))
    (hsilent : methodOf request ≠ .text "notifications/initialized") :
    ∃ content, IsContent content ∧
      (s.answer around request).2 = .ok (some (message (idOf request) content)) := by
  have hanswered := answered_answer s around request
  obtain ⟨reply, hreply⟩ := (answer_eq_ok_iff s around).mpr hcall
  rw [hreply] at hanswered ⊢
  generalize (s.answer around request).1 = s' at hanswered
  cases hanswered with
  | silent hmethod => exact absurd hmethod hsilent
  | called _ _ => exact ⟨_, ⟨.inl rfl, printable_resultJson _⟩, rfl⟩
  | told _ _ hcontent => exact ⟨_, hcontent, rfl⟩

theorem respond_malformed {line : String} (h : Json.parse line = .error .malformed) :
    s.respond around line = (s, .ok none) := by
  rw [respond, h]

theorem respond_request {line : String} {request : List (String × Json)}
    (h : Json.parse line = .ok (.object request)) :
    s.respond around line = s.answer around request := by
  rw [respond, h]

/-- A server goes on after the lines that are suited, and after no others. -/
theorem respond_eq_ok_iff (s : Server) (around : Surroundings) {line : String} :
    (∃ reply, (s.respond around line).2 = .ok reply) ↔ Suited line := by
  constructor
  · rintro ⟨reply, h⟩
    unfold respond at h
    split at h
    · next hparse => exact .malformed hparse
    · cases h
    · next request hparse => exact .request hparse ((answer_eq_ok_iff s around).mp ⟨reply, h⟩)
    · cases h
  · intro h
    cases h with
    | malformed hparse => exact ⟨none, by rw [respond_malformed hparse]⟩
    | request hparse hcall =>
        rw [respond_request hparse]
        exact (answer_eq_ok_iff s around).mpr hcall

/-! ## Written answers -/

/-- A line that is malformed, or an object; parameters have to be an object, and a name among them
has to be text. -/
inductive Wellformed (line : String) : Prop where
  | malformed (h : Json.parse line = .error .malformed)
  | request {request} (h : Json.parse line = .ok (.object request))
      (hparams : ∀ v, Table.find? request "params" = some v →
        ∃ params, v = .object params ∧
          ∀ n, Table.find? params "name" = some n → ∃ name, n = .text name)

/-- A line that is not answered. -/
inductive Silent (line : String) : Prop where
  | malformed (h : Json.parse line = .error .malformed)
  | initialized {request} (h : Json.parse line = .ok (.object request))
      (hmethod : methodOf request = .text "notifications/initialized")

/-- The result of a call tells whether it failed. -/
def TellsFailure (s : Server) (around : Surroundings) (params : List (String × Json))
    (result : Option Json) : Prop :=
  ∃ fields isError, result = some (.object fields) ∧
    Table.find? fields "isError" = some (.bool isError) ∧
    (isError = true ↔ s.Fails around (nameIn params) (argumentsIn params)) ∧
    (isError = false ↔ ∃ found, s.Gives around (nameIn params) (argumentsIn params) found)

/-- A line is the answer to a request: a single line of JSON with the id of the request, and with
either a result or an error. -/
structure Answers (s : Server) (around : Surroundings) (request : List (String × Json))
    (written : String) : Prop where
  single : Json.Clear written.toList
  read : ∃ fields, Json.parse written = .ok (.object fields) ∧
    Table.find? fields "id" = some (idOf request) ∧
    Table.contains fields "result" = !Table.contains fields "error" ∧
    (methodOf request = .text "tools/call" → ∃ params, parametersOf request = .object params ∧
      s.TellsFailure around params (Table.find? fields "result"))

theorem callable_of_wellformed {request : List (String × Json)}
    (h : ∀ v, Table.find? request "params" = some v → ∃ params, v = .object params ∧
      ∀ n, Table.find? params "name" = some n → ∃ name, n = .text name) :
    Callable (parametersOf request) := by
  unfold parametersOf requestField
  cases hparams : Table.find? request "params" with
  | none => exact ⟨[], rfl, trivial⟩
  | some v =>
      obtain ⟨params, rfl, hname⟩ := h v hparams
      refine ⟨params, rfl, ?_⟩
      unfold nameIn requestField
      cases hfound : Table.find? params "name" with
      | none => trivial
      | some n =>
          obtain ⟨name, rfl⟩ := hname n hfound
          trivial

theorem Wellformed.suited {line : String} (h : Wellformed line) : Suited line := by
  cases h with
  | malformed hparse => exact .malformed hparse
  | request hparse hparams => exact .request hparse fun _ => callable_of_wellformed hparams

theorem printable_requestField {request : List (String × Json)}
    (h : Printable (.object request)) {default : Json} (hdefault : Printable default)
    (name : String) : Printable (requestField request name default) := by
  unfold requestField
  cases hfound : Table.find? request name with
  | none => exact hdefault
  | some v =>
      rw [Json.printable_object_iff] at h
      exact h.2 _ (Table.mem_of_find? hfound)

theorem printable_message {id : Json} {content : String × Json} (hid : Printable id)
    (hcontent : IsContent content) : Printable (message id content) := by
  obtain ⟨kind, v⟩ := content
  obtain ⟨hkind, hv⟩ := hcontent
  simp only at hkind hv
  rcases hkind with rfl | rfl <;> simp [message, Table.keys, hid, hv]

theorem callParameters_object {params : List (String × Json)} (hname : IsName (nameIn params)) :
    callParameters (.object params) = .ok (nameIn params, argumentsIn params) := by
  simp only [callParameters, ← nameIn.eq_1, ← argumentsIn.eq_1]
  cases hparams : nameIn params <;> simp_all [IsName]

theorem tellsFailure_call (s : Server) (around : Surroundings) (params : List (String × Json)) :
    s.TellsFailure around params
      (some (resultJson (s.call around (nameIn params) (argumentsIn params)).2)) := by
  obtain ⟨htrue, hfalse⟩ := contains_error_call s around (nameIn params) (argumentsIn params)
  exact ⟨_, _, rfl, rfl, htrue, hfalse⟩

/-- Whatever is answered to a request that was read is written as its answer. -/
theorem answers_answer {line : String} {request : List (String × Json)} {reply : Json}
    (hparse : Json.parse line = .ok (.object request))
    (hreply : (s.answer around request).2 = .ok (some reply)) :
    s.Answers around request reply.line := by
  have hid : Printable (idOf request) :=
    printable_requestField (Json.printable_of_parse hparse) .null "id"
  have hanswered := answered_answer s around request
  rw [hreply] at hanswered
  generalize (s.answer around request).1 = s' at hanswered
  cases hanswered with
  | called hmethod hparams =>
      obtain ⟨params, hobject, hname⟩ := callParameters_eq_ok_iff.mp ⟨_, hparams⟩
      rw [hobject, callParameters_object hname] at hparams
      cases hparams
      have hcontent (result : CallResult) : IsContent ("result", resultJson result) :=
        ⟨.inl rfl, printable_resultJson result⟩
      have hmessage := printable_message hid
        (hcontent (s.call around (nameIn params) (argumentsIn params)).2)
      exact ⟨hmessage.clear, _, Json.parse_line hmessage, rfl, rfl,
        fun _ => ⟨params, hobject, tellsFailure_call s around params⟩⟩
  | @told content hcall hsilent hcontent =>
      have hmessage := printable_message hid hcontent
      refine ⟨hmessage.clear, _, Json.parse_line hmessage, rfl, ?_, fun h => absurd h hcall⟩
      obtain ⟨kind, v⟩ := content
      rcases hcontent.kind with h | h <;> simp only at h <;> subst h <;> rfl

end TrustWeb.Server
