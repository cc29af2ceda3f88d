import LedgerTrust.Proofs.Session.Faults

/-!
# Sessions that are opened

A session is opened under a connection, with a signer or with the key file of a user. All was sound
by then, so the session has at least one replica, and its replicas are those of the connection, in
this order and under different names.
-/

namespace LedgerTrust

namespace Session

variable {s : Session} {connection : ConnectionConfig}

/-- The session was opened under a connection, with a signer or with a key file. -/
def OpenedBy (s : Session) (connection : ConnectionConfig) : Prop :=
  ∃ config, (∃ signer, ofConfig connection config signer = .ok s)
    ∨ ∃ keyFile, connect connection config keyFile = .ok s

/-- Some settings are sound with the connection, and the session reflects both. -/
theorem OpenedBy.sound_reflects (h : s.OpenedBy connection) :
  ∃ config, Sound connection config s.signer ∧ s.Reflects connection config
  := by
  obtain ⟨config, hopened⟩ := h
  obtain ⟨signer, hopen⟩ : ∃ signer, ofConfig connection config signer = .ok s := by
    obtain hopen | ⟨keyFile, hconnect⟩ := hopened
    · exact hopen
    · obtain ⟨signer, -, hopen⟩ := connect_eq_ok_iff.1 hconnect
      exact ⟨signer, hopen⟩
  obtain ⟨rfl, hreflects⟩ := reflects_of_ofConfig hopen
  exact ⟨config, exists_ofConfig_iff.1 ⟨s, hopen⟩, hreflects⟩

/-- Replicas keep their names and their order. -/
theorem Reflects.ids {config : SessionConfig} (h : s.Reflects connection config) :
  s.replicas.map Replica.id = connection.replicas.map ReplicaConfig.id
  := by
  have hreplicas := h.replicas
  generalize connection.replicas = configs, s.replicas = replicas at hreplicas
  induction hreplicas with
  | nil => rfl
  | cons hreplica _ ih => rw [List.map_cons, List.map_cons, hreplica.1, ih]

/-- The replicas of an opened session are those of its connection, in order. -/
theorem OpenedBy.ids (h : s.OpenedBy connection) :
  s.replicas.map Replica.id = connection.replicas.map ReplicaConfig.id
  := by
  obtain ⟨config, -, hreflects⟩ := h.sound_reflects
  exact hreflects.ids

theorem OpenedBy.policy (h : s.OpenedBy connection) :
  s.policy = connection.policy
  := by
  obtain ⟨config, -, hreflects⟩ := h.sound_reflects
  exact hreflects.policy

/-- An opened session has a replica. -/
theorem OpenedBy.replicas_ne_nil (h : s.OpenedBy connection) :
  s.replicas ≠ []
  := by
  obtain ⟨config, hsound, -⟩ := h.sound_reflects
  intro hnone
  have hids := h.ids
  rw [hnone, List.map_nil] at hids
  exact hsound.replicas (List.map_eq_nil_iff.1 hids.symm)

/-- The replicas of an opened session are different. -/
theorem OpenedBy.nodup_replicas (h : s.OpenedBy connection) :
  s.replicas.Nodup
  := by
  obtain ⟨config, hsound, -⟩ := h.sound_reflects
  apply List.Nodup.of_map Replica.id
  rw [h.ids]
  exact hsound.distinctReplicas

end Session

end LedgerTrust
