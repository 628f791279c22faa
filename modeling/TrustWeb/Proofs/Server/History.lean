import TrustWeb.Proofs.Description.Statements
import TrustWeb.Proofs.Server.Runs

/-! # What earlier calls leave behind

A server keeps its network once it has been read, and tries again after it could not be. None of
this shows in what it answers: as long as the network file stays as it is, and the description in it
sets its reference time, a call is answered as by a server that was not called before. -/

namespace TrustWeb.Server

/-- A call of a tool, and the moment at which it comes. -/
structure Asked where
  now : Moment
  name : Json
  arguments : Json

/-- The server after some calls, the network file being as it is. -/
def afterCalls (s : Server) (file : FileContent) (earlier : List Asked) : Server :=
  earlier.foldl (fun s c => (s.call ⟨file, c.now⟩ c.name c.arguments).1) s

/-- A network file that sets the reference time, if statements can be read from it at all. -/
def SetsTime (file : FileContent) : Prop :=
  ∀ content statements, file = .ok content →
    Description.Statement.readAll (textOfContent content) = .ok statements →
      ∃ date, .time date ∈ statements

variable {s s' : Server} {file : FileContent} {now now' : Moment} {tool tool' : Tool}
  {d : Description}

/-! ## The network that is found -/

/-- A description that sets its reference time reads the same at any moment. -/
theorem read_congr {text : String} (given given' : Moment)
    (h : ∀ statements, Description.Statement.readAll text = .ok statements →
      ∃ date, .time date ∈ statements) :
    Description.read given text = Description.read given' text := by
  unfold Description.read
  split
  · rfl
  · rfl
  · next statements hstatements =>
      obtain ⟨date, hdate⟩ := h statements hstatements
      have hdates : Description.dates statements ≠ [] :=
        List.ne_nil_of_mem (List.mem_filterMap.mpr ⟨_, hdate, rfl⟩)
      rw [Description.ofStatements, Description.ofStatements,
        Description.referenceTime_congr given given' hdates]

/-- The moment of a call does not show in the network that is found. -/
theorem currentDescription_congr (hfile : s.description = none → SetsTime file)
    (now now' : Moment) (tool : Tool) :
    s.currentDescription ⟨file, now⟩ tool = s.currentDescription ⟨file, now'⟩ tool := by
  unfold currentDescription
  split
  · rfl
  · rfl
  · next hnone _ =>
      cases file with
      | error fault => rfl
      | ok content =>
          have hread : Description.read now (textOfContent content) =
              Description.read now' (textOfContent content) :=
            read_congr now now' fun statements => hfile hnone content statements rfl
          simp only [hread]

/-- The network that is found, if one is, does not depend on the tool. -/
theorem currentDescription_tool {around : Surroundings}
    (h : s.currentDescription around tool = .ok d) (tool' : Tool) :
    s.currentDescription around tool' = .ok d := by
  unfold currentDescription at h ⊢
  split at h
  · exact h
  · cases h
  · split at h
    · cases h
    · split at h
      · exact h
      · cases h
      · cases h

/-- A server that was called finds what it would have found before. -/
theorem After.alike_of_file (hfile : s.description = none → SetsTime file)
    (h : After s ⟨file, now⟩ s') (now' : Moment) : Alike s' s ⟨file, now'⟩ := by
  cases h with
  | same => exact ⟨rfl, fun _ => rfl⟩
  | @kept tool d hd =>
      refine ⟨rfl, fun tool' => ?_⟩
      rw [currentDescription_congr hfile now' now]
      exact (currentDescription_tool hd tool').symm

theorem description_after (h : After s ⟨file, now⟩ s')
    (hfile : s.description = none → SetsTime file) :
    s'.description = none → SetsTime file := by
  cases h with
  | same => exact hfile
  | kept hd => nofun

/-- A server that was called any number of times finds what it would have found before. -/
theorem alike_afterCalls (hfile : s.description = none → SetsTime file) (earlier : List Asked)
    (now : Moment) : Alike (s.afterCalls file earlier) s ⟨file, now⟩ := by
  induction earlier generalizing s with
  | nil => exact ⟨rfl, fun _ => rfl⟩
  | cons c rest ih =>
      have hafter := after_call s ⟨file, c.now⟩ c.name c.arguments
      have hrest := ih (description_after hafter hfile)
      have hfirst := hafter.alike_of_file hfile now
      exact ⟨hrest.configuration.trans hfirst.configuration,
        fun tool => (hrest.description tool).trans (hfirst.description tool)⟩

/-! ## Webs that are kept -/

/-- A server that keeps not only its network but also the web made of it, from the first call on for
which both are at hand. -/
structure Keeper where
  server : Server
  web : Option Web := none

/-- The result of a call that is carried out on a web. -/
def resultOn (w : Web) (c : Call) : CallResult :=
  match c.perform w with
  | .error fault => .error (.failed c.tool fault)
  | .ok fields => .ok fields

namespace Keeper

/-- Carries out a call on the web that is kept, or else on one made for the call. -/
def carryOut (k : Keeper) (around : Surroundings) (c : Call) : Keeper × CallResult :=
  match k.web with
  | some w => (k, resultOn w c)
  | none =>
    match k.server.currentDescription around c.tool with
    | .error fault => (k, .error fault)
    | .ok d =>
      let known := { k.server with description := some d }
      match webOf k.server.configuration d with
      | .error fault => (⟨known, none⟩, .error (.roots fault))
      | .ok w => (⟨known, some w⟩, resultOn w c)

/-- Calls the tool that a value names. -/
def call (k : Keeper) (around : Surroundings) (name arguments : Json) : Keeper × CallResult :=
  match namedTool? name with
  | none => (k, .error (.unknownTool name))
  | some tool =>
    match Call.make tool arguments with
    | .error fault => (k, .error (.failed tool fault))
    | .ok c => k.carryOut around c

/-- The server after some calls, the network file being as it is. -/
def afterCalls (k : Keeper) (file : FileContent) (earlier : List Asked) : Keeper :=
  earlier.foldl (fun k c => (k.call ⟨file, c.now⟩ c.name c.arguments).1) k

/-- The web that is kept is that of the network that is kept. -/
def Sound (k : Keeper) : Prop :=
  ∀ w, k.web = some w →
    ∃ d, k.server.description = some d ∧ webOf k.server.configuration d = .ok w

/-- An outcome is that of a server that keeps its network alone. -/
structure Follows (o : Keeper × CallResult) (o' : Server × CallResult) : Prop where
  server : o.1.server = o'.1
  result : o.2 = o'.2
  sound : o.1.Sound

variable {k : Keeper}

/-- A server that keeps its web carries out calls as if it kept its network alone. -/
theorem Sound.carryOut (h : k.Sound) (around : Surroundings) (c : Call) :
    Follows (k.carryOut around c) (k.server.carryOut around c) := by
  cases hweb : k.web with
  | some w =>
      -- The network is kept too then, and is found without a look at the file.
      obtain ⟨d, hd, hw⟩ := h w hweb
      have hfound : k.server.currentDescription around c.tool = .ok d := by
        simp only [currentDescription, hd]
      have hsame : ({ k.server with description := some d } : Server) = k.server := by
        rw [← hd]
      simp only [Keeper.carryOut, hweb, Server.carryOut, hfound, hw, hsame]
      exact ⟨rfl, rfl, h⟩
  | none =>
      cases hfound : k.server.currentDescription around c.tool with
      | error fault =>
          simp only [Keeper.carryOut, hweb, Server.carryOut, hfound]
          exact ⟨rfl, rfl, h⟩
      | ok d =>
          cases hw : webOf k.server.configuration d with
          | error fault =>
              simp only [Keeper.carryOut, hweb, Server.carryOut, hfound, hw]
              exact ⟨rfl, rfl, nofun⟩
          | ok w =>
              simp only [Keeper.carryOut, hweb, Server.carryOut, hfound, hw]
              refine ⟨rfl, rfl, fun w' hw' => ⟨d, rfl, ?_⟩⟩
              rw [← Option.some.inj hw']
              exact hw

theorem Sound.call (h : k.Sound) (around : Surroundings) (name arguments : Json) :
    Follows (k.call around name arguments) (k.server.call around name arguments) := by
  cases htool : namedTool? name with
  | none =>
      simp only [Keeper.call, Server.call, htool]
      exact ⟨rfl, rfl, h⟩
  | some tool =>
      cases hcall : Call.make tool arguments with
      | error fault =>
          simp only [Keeper.call, Server.call, htool, hcall]
          exact ⟨rfl, rfl, h⟩
      | ok c =>
          simp only [Keeper.call, Server.call, htool, hcall]
          exact h.carryOut around c

/-- Call after call, a server that keeps its web knows the network that it would know without. -/
theorem Sound.afterCalls (h : k.Sound) (file : FileContent) (earlier : List Asked) :
    (k.afterCalls file earlier).server = k.server.afterCalls file earlier ∧
      (k.afterCalls file earlier).Sound := by
  induction earlier generalizing k with
  | nil => exact ⟨rfl, h⟩
  | cons c rest ih =>
      have hcall := h.call ⟨file, c.now⟩ c.name c.arguments
      obtain ⟨hrest, hsound⟩ := ih hcall.sound
      rw [hcall.server] at hrest
      exact ⟨hrest, hsound⟩

end Keeper

/-! ## The same answer -/

/-- A call looks at the file and at the time for the network only. -/
theorem call_congr {around around' : Surroundings}
    (h : ∀ tool, s.currentDescription around tool = s.currentDescription around' tool)
    (name arguments : Json) : s.call around name arguments = s.call around' name arguments := by
  simp only [call, carryOut, h]

/-- A call is answered as by a server that was never called before, whatever calls came before it,
with whatever result, and whenever they came: the network file has to be as it was, and to set its
reference time unless the network was given to begin with. So it is also if the server keeps the
web that it made of its network. -/
theorem call_afterCalls (s : Server) (file : FileContent)
    (hfile : s.description = none → SetsTime file) (earlier : List Asked) (now now' : Moment)
    (name arguments : Json) :
    ((s.afterCalls file earlier).call ⟨file, now⟩ name arguments).2 =
        (s.call ⟨file, now'⟩ name arguments).2 ∧
      (((Keeper.mk s none).afterCalls file earlier).call ⟨file, now⟩ name arguments).2 =
        ((Keeper.mk s none).call ⟨file, now'⟩ name arguments).2 := by
  have hfresh : (Keeper.mk s none).Sound := nofun
  have hserver : ((s.afterCalls file earlier).call ⟨file, now⟩ name arguments).2 =
      (s.call ⟨file, now'⟩ name arguments).2 := by
    have halike := (alike_afterCalls hfile earlier now).call name arguments
    rw [halike.1, call_congr (currentDescription_congr hfile now now')]
  obtain ⟨hknown, hsound⟩ := hfresh.afterCalls file earlier
  refine ⟨hserver, ?_⟩
  calc (((Keeper.mk s none).afterCalls file earlier).call ⟨file, now⟩ name arguments).2
      = ((s.afterCalls file earlier).call ⟨file, now⟩ name arguments).2 := by
        rw [← hknown]
        exact (hsound.call ⟨file, now⟩ name arguments).result
    _ = (s.call ⟨file, now'⟩ name arguments).2 := hserver
    _ = ((Keeper.mk s none).call ⟨file, now'⟩ name arguments).2 :=
        (hfresh.call ⟨file, now'⟩ name arguments).result.symm

namespace Founded

/-- A description with a single certificate, which is a root. -/
def text : String := "at 2023-01-01 node a \x22<a@example.org>\x22 root a"

theorem readAll_text : Description.Statement.readAll text =
    .ok [.time "2023-01-01", .node "a" [.userId "<a@example.org>" none], .root "a" 120] := by
  decide +kernel

/-- A server that has not read its network file yet. -/
def server : Server where
  configuration := ⟨some "net.wot", "", fullTrust, .authentication, fullTrust_pos⟩

/-- Calls at three moments: of no tool, of one with an argument that it cannot take, and of one that
gives a result. -/
def earlier : List Asked :=
  [⟨⟨0, some 0⟩, .text "wot_trust", .object []⟩,
    ⟨⟨1, some 0⟩, .text "wot_identify", .object [("fingerprint", .null)]⟩,
    ⟨⟨2, some 0⟩, .text "wot_list", .null⟩]

theorem setsTime : SetsTime (.ok text) := by
  intro content statements hcontent hstatements
  cases hcontent
  have hunified : textOfContent text = text := by decide +kernel
  rw [hunified, readAll_text] at hstatements
  cases hstatements
  exact ⟨"2023-01-01", List.mem_cons_self⟩

end Founded

/-- The three calls do not show in the result of a fourth, which lists the only binding. -/
theorem call_afterCalls_founded :
    ((Founded.server.afterCalls (.ok Founded.text) Founded.earlier).call
        ⟨.ok Founded.text, ⟨3, some 0⟩⟩ (.text "wot_list") (.object [])).2 =
      (Founded.server.call ⟨.ok Founded.text, ⟨4, some 0⟩⟩ (.text "wot_list") (.object [])).2 ∧
    (Founded.server.call ⟨.ok Founded.text, ⟨4, some 0⟩⟩ (.text "wot_list")
      (.object [])).2.toOption.map (fun fields => (Table.find? fields "count").map (·.line)) =
        some (some "1") := by
  refine ⟨?_, by decide +kernel⟩
  exact (call_afterCalls Founded.server (.ok Founded.text) (fun _ => Founded.setsTime)
    Founded.earlier ⟨3, some 0⟩ ⟨4, some 0⟩ (.text "wot_list") (.object [])).1

end TrustWeb.Server
