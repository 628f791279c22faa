import Mathlib
import TrustWeb.Description
import TrustWeb.Proofs.Store.Contents

/-! # Networks as they are delivered

A network is loaded from the records of a store or read from a description. Either way everything
stands under its own fingerprints, no certificate stands there twice, and no user ID stands twice on
a certificate. -/

namespace TrustWeb

/-! ## Certificates and user IDs without repetition -/

/-- The table holds certificates under their own fingerprints, and on each of them every user ID
once. -/
structure Orderly (nodes : Table Fingerprint Node) : Prop where
  keys : nodes.keys.Nodup
  userIds : ∀ entry ∈ nodes, entry.2.userIds.keys.Nodup

theorem Orderly.nil : Orderly [] := ⟨List.nodup_nil, by simp⟩

theorem Orderly.put {nodes : Table Fingerprint Node} (h : Orderly nodes) {n : Node}
    (hn : n.userIds.keys.Nodup) (f : Fingerprint) : Orderly (nodes.put f n) := by
  refine ⟨Table.nodup_keys_put h.keys f n, fun entry hentry => ?_⟩
  rcases Table.mem_put hentry with rfl | hentry
  · exact hn
  · exact h.userIds entry hentry

/-- A network in which everything stands under its own fingerprints, and nothing twice. -/
structure Network.Tidy (n : Network) : Prop extends n.WellKeyed where
  orderly : Orderly n.nodes

namespace Builder

/-- What was collected stands under its own fingerprints, and nothing stands there twice. -/
structure Tidy (b : Builder) : Prop extends b.WellKeyed where
  orderly : Orderly b.nodes

variable {b : Builder}

theorem Tidy.addNode (h : b.Tidy) {n : Node} (hn : n.userIds.keys.Nodup) :
    (b.addNode n).1.Tidy := by
  refine ⟨h.toWellKeyed.addNode n, ?_⟩
  unfold Builder.addNode
  split
  · exact h.orderly
  · exact h.orderly.put hn n.fingerprint

theorem Tidy.addSignature (h : b.Tidy) (s : Signature) : (b.addSignature s).Tidy :=
  ⟨h.toWellKeyed.addSignature s, h.orderly⟩

theorem Tidy.build (h : b.Tidy) (now : Moment) : (b.build now).Tidy :=
  ⟨h.toWellKeyed.network h.toWellKeyed now, h.orderly⟩

end Builder

/-! ## Loaded networks -/

namespace Store

variable {policy : Policy} {now : Moment} {certificates : List CertificateRecord} {n : Network}

theorem mem_of_mem_chosen {c : CertificateRecord} (h : c ∈ chosen certificates) :
    c ∈ certificates :=
  List.mem_of_find?_eq_some (firstUsable?_of_mem_chosen h)

theorem tidy_certificatesOnly (h : ∀ c ∈ certificates, c.userIds.keys.Nodup) :
    (certificatesOnly now certificates).Tidy := by
  refine ⟨wellKeyed_certificatesOnly now certificates, ?_, ?_⟩
  · rw [nodes_certificatesOnly, Table.keys_mapValues]
    exact nodup_keys_kept certificates
  · intro entry hentry
    simp only [certificatesOnly, kept_eq, List.map_map, List.mem_map] at hentry
    obtain ⟨c, hc, rfl⟩ := hentry
    exact h c (mem_of_mem_chosen hc)

theorem tidy_foldl_addSignature {b : Builder} (h : b.Tidy) (signatures : List Signature) :
    (signatures.foldl Builder.addSignature b).Tidy := by
  induction signatures generalizing b with
  | nil => exact h
  | cons s rest ih => exact ih (h.addSignature s)

theorem tidy_of_load (huserIds : ∀ c ∈ certificates, c.userIds.keys.Nodup)
    (h : (load policy now certificates).network = .ok n) : n.Tidy := by
  have hrange : ∀ job ∈ jobs (kept certificates).1,
      (accepted? policy now (kept certificates).1 job).isSome = true → job.signature.InRange := by
    intro job hjob haccepted
    refine Classical.byContradiction fun hrange => ?_
    obtain ⟨fault, hfault⟩ := load_of_not_inRange hjob haccepted hrange
    simp [h] at hfault
  obtain ⟨signatures, -, hnetwork, -⟩ := load_of_inRange hrange
  obtain rfl := Except.ok.inj (h.symm.trans hnetwork)
  exact (tidy_foldl_addSignature (tidy_certificatesOnly huserIds) signatures).build now

end Store

/-! ## Described networks -/

namespace Description

theorem nodup_userIds_withAttribute {n n' : Node} {a : Attribute} (hn : n.userIds.keys.Nodup)
    (h : withAttribute n a = .ok n') : n'.userIds.keys.Nodup := by
  cases a with
  | userId text r =>
      obtain ⟨r', -, rfl⟩ := map_eq_ok_iff.mp h
      exact Table.nodup_keys_put hn text r'
  | expires date =>
      obtain ⟨m, -, rfl⟩ := map_eq_ok_iff.mp h
      exact hn
  | revoked r =>
      obtain ⟨r', -, rfl⟩ := map_eq_ok_iff.mp h
      exact hn

theorem nodup_userIds_node {name : String} {attributes : List Attribute} {n : Node}
    (h : node name attributes = .ok n) : n.userIds.keys.Nodup := by
  have hstart : ({ fingerprint := Fingerprint.ofText name } : Node).userIds.keys.Nodup :=
    List.nodup_nil
  exact foldlM_preserves (P := fun n : Node => n.userIds.keys.Nodup)
    (fun _ _ _ hn hn' => nodup_userIds_withAttribute hn hn') hstart h

theorem tidy_declare {d d' : Declared} {s : Statement} (hd : d.builder.Tidy)
    (h : d.declare s = .ok d') : d'.builder.Tidy := by
  cases s with
  | node name attributes =>
      simp only [Declared.declare] at h
      split at h
      · cases h
      · obtain ⟨n, hn, rfl⟩ := map_eq_ok_iff.mp h
        exact hd.addNode (nodup_userIds_node hn)
  | time date =>
      obtain rfl := Except.ok.inj h
      exact hd
  | signature issuer target userId options =>
      obtain rfl := Except.ok.inj h
      exact hd
  | root name amount =>
      obtain rfl := Except.ok.inj h
      exact hd

theorem tidy_connect {d : Declared} {now : Moment} {state state' : Builder × List Root}
    {s : Statement} (hstate : state.1.Tidy) (h : connect d now state s = .ok state') :
    state'.1.Tidy := by
  cases s with
  | signature issuer target userId options =>
      simp only [connect, bind_eq_ok_iff] at h
      obtain ⟨_, -, _, -, s, -, h⟩ := h
      obtain rfl := Except.ok.inj h
      exact hstate.addSignature s
  | root name amount =>
      simp only [connect, bind_eq_ok_iff] at h
      obtain ⟨_, -, h⟩ := h
      obtain rfl := Except.ok.inj h
      exact hstate
  | time date =>
      obtain rfl := Except.ok.inj h
      exact hstate
  | node name attributes =>
      obtain rfl := Except.ok.inj h
      exact hstate

theorem tidy_of_read {given : Moment} {text : String} {d : Description}
    (h : read given text = .ok d) : d.network.Tidy := by
  unfold read at h
  split at h
  · cases h
  · cases h
  · simp only [ofStatements, bind_eq_ok_iff] at h
    obtain ⟨now, -, declared, hdeclared, ⟨builder, roots⟩, hconnected, h⟩ := h
    obtain rfl := Except.ok.inj h
    have hstart : (Builder.setTime {} now).Tidy := ⟨⟨by simp [Builder.setTime],
      by simp [Builder.setTime]⟩, .nil⟩
    have hnodes : declared.builder.Tidy :=
      foldlM_preserves (P := fun d : Declared => d.builder.Tidy)
        (fun _ _ _ hd hd' => tidy_declare hd hd') hstart hdeclared
    have hall : builder.Tidy :=
      foldlM_preserves (P := fun state : Builder × List Root => state.1.Tidy)
        (fun _ _ _ hstate hstate' => tidy_connect hstate hstate') hnodes hconnected
    exact hall.build now

end Description

/-! ## All networks that are delivered -/

/-- A network that is loaded from the records of a store, in which every user ID of a record stands
once, or that is read from a description. -/
inductive Network.Delivered : Network → Prop where
  | loaded {policy now certificates n}
      (huserIds : ∀ c ∈ certificates, c.userIds.keys.Nodup)
      (hload : (Store.load policy now certificates).network = .ok n) : Delivered n
  | described {given text d} (hread : Description.read given text = .ok d) : Delivered d.network

theorem Network.Delivered.tidy {n : Network} (h : n.Delivered) : n.Tidy := by
  cases h with
  | loaded huserIds hload => exact Store.tidy_of_load huserIds hload
  | described hread => exact Description.tidy_of_read hread

end TrustWeb
