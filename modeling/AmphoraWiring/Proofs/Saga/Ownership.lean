import AmphoraWiring.Delta.Compute
import AmphoraWiring.Proofs.Delta.Wanted
import AmphoraWiring.Proofs.Saga.NicChanges

/-!
Who answers for a port. A port that exists is owned by an amphora, which the repository records, or
its leak has been reported; else nobody will ever delete it. Adding an interface, taking it away
again and every other change leave no such port behind, with one exception: the removal of an
interface forgets the owner of a port also where the call to delete the port has failed.
-/
namespace AmphoraWiring

open Action

namespace Substrate

variable {s t u : Substrate} {call : JournalEntry}

theorem Heard.journal_grows (h : s.Heard t) : s.journal <+: t.journal := by
  obtain ⟨calls, hcalls⟩ := h.journal
  exact ⟨calls, hcalls.symm⟩

theorem Called.later (h : s.Called t call) (hgrows : t.journal <+: u.journal) :
    s.Called u call := by
  obtain ⟨calls, hcalls, hmem⟩ := h
  obtain ⟨later, hlater⟩ := hgrows
  exact ⟨calls ++ later, by rw [← hlater, hcalls, List.append_assoc],
    List.mem_append.mpr (.inl hmem)⟩

theorem Called.earlier (h : t.Called u call) (hgrows : s.journal <+: t.journal) :
    s.Called u call := by
  obtain ⟨earlier, hearlier⟩ := hgrows
  obtain ⟨calls, hcalls, hmem⟩ := h
  exact ⟨earlier ++ calls, by rw [hcalls, ← hearlier, List.append_assoc],
    List.mem_append.mpr (.inr hmem)⟩

theorem Serving.same {request : PortRequest} (h : s.Serving t request) :
    t.ports = s.ports ∧ t.journal = s.journal := by
  obtain ⟨ids, ⟨m, rfl, -⟩, -⟩ := h
  exact ⟨rfl, rfl⟩

theorem Adopts.journal_grows {request : PortRequest} {c : String} {p : Port}
    (h : s.Adopts t request c p) : s.journal <+: t.journal := by
  obtain ⟨u, hserving, hheard⟩ := h.result
  rw [← hserving.same.2]
  exact hheard.journal_grows

theorem Gains.journal_grows {id subnetId : String} {p : Port} {ips : List FixedIp}
    (h : s.Gains t id subnetId p ips) : s.journal <+: t.journal := by
  obtain ⟨u, ⟨m, rfl, -⟩, hheard⟩ := h.result
  exact hheard.journal_grows

theorem Loses.journal_grows {id subnetId : String} {p : Port} (h : s.Loses t id subnetId p) :
    s.journal <+: t.journal :=
  h.result.journal_grows

theorem Removal.journal_grows {c networkId : String} {portId : Option String}
    (h : s.Removal t c networkId portId) : s.journal <+: t.journal := by
  obtain ⟨u, hdetached, ht | ⟨id, -, ht⟩⟩ := h
  all_goals
    obtain ⟨calls, hcalls⟩ := hdetached.journal
    exact .trans ⟨calls, hcalls.symm⟩ ht.journal_grows

/-- Changing a port in place makes no port. -/
theorem Amended.exists_before {id k : String} {f : Port → Port} {q : Port}
    (h : s.Amended t id f) (hq : t.ports.get? k = some q) : ∃ p, s.ports.get? k = some p := by
  rw [h.get?] at hq
  split at hq
  · obtain ⟨p, hp, -⟩ := Option.map_eq_some_iff.mp hq
    exact ⟨p, hp⟩
  · exact ⟨q, hq⟩

theorem Removal.exists_before {c networkId id : String} {portId : Option String} {q : Port}
    (h : s.Removal t c networkId portId) (hq : t.ports.get? id = some q) :
    ∃ p, s.ports.get? id = some p :=
  (h.get? hq).imp fun _ hp => hp.1

end Substrate

namespace Deployment

open Substrate

/-- The port exists, but no record tells whose it is, and its leak has not been reported. -/
structure Silent (d : Deployment) (id : String) : Prop where
  existing : ∃ p, d.substrate.ports.get? id = some p
  unbound : ¬ d.repository.Bound id
  unreported : ¬ d.audit.LeakReported id

/-- No port has been silenced between `d` and `d'`, but for named ones that were to be deleted. -/
structure Accounted (named : String → Prop) (d d' : Deployment) : Prop where
  harmless : d.repository.Harmless → d'.repository.Harmless
  journal : d.substrate.journal <+: d'.substrate.journal
  silent : d.repository.Harmless → ∀ id, d'.Silent id →
    d.Silent id ∨ named id ∧ d.substrate.Called d'.substrate ⟨.deletePort, id⟩

namespace Accounted

variable {named : String → Prop} {d d' d'' : Deployment}

theorem refl (d : Deployment) : Accounted named d d :=
  ⟨id, List.prefix_refl _, fun _ _ h => .inl h⟩

theorem trans (h : Accounted named d d') (h' : Accounted named d' d'') :
    Accounted named d d'' := by
  refine ⟨fun hharmless => h'.harmless (h.harmless hharmless), h.journal.trans h'.journal, ?_⟩
  intro hharmless id hsilent
  rcases h'.silent (h.harmless hharmless) id hsilent with hsilent | ⟨hnamed, hcalled⟩
  · exact (h.silent hharmless id hsilent).imp_right fun h => ⟨h.1, h.2.later h'.journal⟩
  · exact .inr ⟨hnamed, hcalled.earlier h.journal⟩

theorem mono {named' : String → Prop} (h : Accounted named d d')
    (himp : ∀ id, named id → named' id) : Accounted named' d d' :=
  ⟨h.harmless, h.journal, fun hharmless id hsilent =>
    (h.silent hharmless id hsilent).imp_right fun h => ⟨himp id h.1, h.2⟩⟩

/-- Where no port is made and no record of a port is lost. -/
theorem of_grows (hjournal : d.substrate.journal <+: d'.substrate.journal)
    (hports : ∀ id q, d'.substrate.ports.get? id = some q →
      ∃ p, d.substrate.ports.get? id = some p)
    (hrepository : d.repository.Heard d'.repository)
    (haudit : d.audit.events <+: d'.audit.events) : Accounted named d d' := by
  refine ⟨hrepository.harmless, hjournal, fun _ id hsilent => .inl ?_⟩
  obtain ⟨⟨q, hq⟩, hunbound, hunreported⟩ := hsilent
  exact ⟨hports id q hq, fun h => hunbound ((hrepository.bound_iff id).mpr h),
    fun h => hunreported (h.later haudit)⟩

theorem of_sameRecords (hjournal : d.substrate.journal <+: d'.substrate.journal)
    (hports : ∀ id q, d'.substrate.ports.get? id = some q →
      ∃ p, d.substrate.ports.get? id = some p)
    (hrecords : d.SameRecords d') : Accounted named d d' :=
  of_grows hjournal hports (hrecords.1 ▸ .refl _) (hrecords.2 ▸ List.prefix_refl _)

/-- Where one port is made at most, and is not silent in the end. -/
theorem of_made (made : String) (hjournal : d.substrate.journal <+: d'.substrate.journal)
    (hports : ∀ id q, id ≠ made → d'.substrate.ports.get? id = some q →
      ∃ p, d.substrate.ports.get? id = some p)
    (hharmless : d.repository.Harmless → d'.repository.Harmless)
    (hbound : ∀ id, d.repository.Bound id → d'.repository.Bound id)
    (haudit : d.audit.events <+: d'.audit.events)
    (hmade : d.repository.Harmless → ¬ d'.Silent made) : Accounted named d d' := by
  refine ⟨hharmless, hjournal, fun hr id hsilent => .inl ?_⟩
  have hne : id ≠ made := by
    intro h
    subst h
    exact hmade hr hsilent
  obtain ⟨⟨q, hq⟩, hunbound, hunreported⟩ := hsilent
  exact ⟨hports id q hne hq, fun h => hunbound (hbound id h),
    fun h => hunreported (h.later haudit)⟩

end Accounted

end Deployment

namespace Delta

open Deployment Substrate

variable {named : String → Prop} {d d' : Deployment} {amphora : Amphora} {nic : Interface}
  {changed : ChangedPorts}

/-- A port that has been plugged in is owned if its record was made or had been made before. -/
theorem accounted_of_adopts {c : String} {p : Port}
    (hadopts : d.substrate.Adopts d'.substrate (portRequest amphora nic) c p)
    (hharmless : d.repository.Harmless → d'.repository.Harmless)
    (hbound : ∀ id, d.repository.Bound id → d'.repository.Bound id)
    (haudit : d.audit.events <+: d'.audit.events)
    (howned : d.repository.Harmless → d'.repository.Bound p.id) : Accounted named d d' := by
  refine .of_made p.id hadopts.journal_grows ?_ hharmless hbound haudit
    fun hr hsilent => hsilent.unbound (howned hr)
  intro id q hne hq
  rw [hadopts.get?, if_neg hne] at hq
  exact ⟨q, hq⟩

theorem NicAdded.accounted {changed' : ChangedPorts} {c : String} {p q : Port}
    (h : NicAdded amphora nic changed d changed' d' c p q) : Accounted named d d' := by
  refine accounted_of_adopts h.adopts (fun hr => h.bindings.harmless hr) (fun id hid => ?_) ?_
    fun _ => ?_
  · rw [h.bindings.bound_iff, Repository.bound_addBinding]
    exact .inl hid
  · rw [h.audit]
    exact (List.prefix_append _ _).trans (List.prefix_append _ _)
  · rw [h.bindings.bound_iff, Repository.bound_addBinding]
    exact .inr rfl

theorem NicNotAdded.accounted (h : NicNotAdded amphora nic d d') : Accounted named d d' := by
  cases h with
  | refused u hserving hheard hrecords =>
    obtain ⟨hports, hjournal⟩ := hserving.same
    refine .of_sameRecords (hjournal ▸ hheard.journal_grows) (fun id q hq => ⟨q, ?_⟩) hrecords
    rwa [hheard.ports, hports] at hq
  | discarded u p hserving hcreated hheard hrecords =>
    obtain ⟨hports, hjournal⟩ := hserving.same
    refine .of_sameRecords (hjournal ▸ hheard.journal_grows) (fun id q hq => ⟨q, ?_⟩) hrecords
    rw [hheard.ports, get?_ports_removePort] at hq
    split at hq
    · cases hq
    next hne =>
      change (u.ports.insert p.id p).get? id = some q at hq
      rwa [IdMap.get?_insert, if_neg hne, hports] at hq
  | leaked u p reason hserving hcreated hheard hrepository haudit =>
    obtain ⟨hports, hjournal⟩ := hserving.same
    have hgrows : d.audit.events <+: d'.audit.events := by
      rw [haudit]
      exact List.prefix_append _ _
    refine .of_made p.id (hjournal ▸ hheard.journal_grows) ?_ (hrepository ▸ id)
      (fun id hid => hrepository ▸ hid) hgrows ?_
    · intro id q hne hq
      rw [hheard.ports] at hq
      change (u.ports.insert p.id p).get? id = some q at hq
      rw [IdMap.get?_insert, if_neg hne, hports] at hq
      exact ⟨q, hq⟩
    · intro _ hsilent
      apply hsilent.unreported
      rw [haudit]
      exact AuditLog.leakReported_resourceLeaked d.audit "port" p.id reason
  | unrecorded c p hcompute hadopts hrepository hbound haudit =>
    refine accounted_of_adopts hadopts hrepository.harmless
      (fun id hid => (hrepository.bound_iff id).mpr hid) ?_
      fun hr => (hrepository.bound_iff p.id).mpr (hbound hr)
    rw [haudit]
    exact List.prefix_append _ _
  | unfilled c p hcompute hadopts hrepository haudit =>
    refine accounted_of_adopts hadopts (fun hr => hrepository.harmless hr) (fun id hid => ?_) ?_
      fun _ => ?_
    · rw [hrepository.bound_iff, Repository.bound_addBinding]
      exact .inl hid
    · rw [haudit]
      exact (List.prefix_append _ _).trans (List.prefix_append _ _)
    · rw [hrepository.bound_iff, Repository.bound_addBinding]
      exact .inr rfl

theorem SubnetAdded.accounted {change : SubnetChange} {changed' : ChangedPorts}
    (h : SubnetAdded changed change d changed' d') : Accounted named d d' := by
  cases h with
  | present q hport hsubnet hchanged hstate => exact hstate ▸ .refl d'
  | gained id p ips q htarget hgains hmatches hchanged hrecords habsent =>
    exact .of_sameRecords hgains.journal_grows (fun _ _ => hgains.amended.exists_before) hrecords

theorem SubnetNotAdded.accounted {change : SubnetChange}
    (h : SubnetNotAdded changed change d d') : Accounted named d d' := by
  cases h with
  | refused u hallocating hheard hrecords =>
    obtain ⟨m, rfl, -⟩ := hallocating
    refine .of_sameRecords hheard.journal_grows (fun id q hq => ⟨q, ?_⟩) hrecords
    rwa [hheard.ports] at hq
  | gained id p ips htarget hgains hrecords =>
    exact .of_sameRecords hgains.journal_grows (fun _ _ => hgains.amended.exists_before) hrecords

theorem SubnetDeleted.accounted {change : SubnetChange} {changed' : ChangedPorts}
    (h : SubnetDeleted changed change d changed' d') : Accounted named d d' := by
  cases h with
  | unnamed hport hchanged hstate => exact hstate ▸ .refl d'
  | lost id p q hport hloses hmatches hchanged hrecords =>
    exact .of_sameRecords hloses.journal_grows (fun _ _ => hloses.amended.exists_before) hrecords

theorem SubnetNotDeleted.accounted {change : SubnetChange} (h : SubnetNotDeleted change d d') :
    Accounted named d d' := by
  cases h with
  | refused hheard =>
    refine .of_sameRecords hheard.1.journal_grows (fun id q hq => ⟨q, ?_⟩) hheard.2
    rwa [hheard.1.ports] at hq
  | lost id p hport hloses hrecords =>
    exact .of_sameRecords hloses.journal_grows (fun _ _ => hloses.amended.exists_before) hrecords

/-- Only the removal of an interface forgets the owner of a port that stays behind. -/
theorem NicDeleted.accounted {c : String} (h : NicDeleted c nic d d')
    (hnamed : ∀ id, nic.portId = some id → named id) : Accounted named d d' := by
  rcases h.repository with hheard | ⟨id, hid, hheard⟩
  · exact .of_grows h.removal.journal_grows (fun _ _ => h.removal.exists_before) hheard h.audit
  · refine ⟨fun hr => hheard.harmless hr, h.removal.journal_grows, fun _ k hsilent => ?_⟩
    by_cases hk : k = id
    · subst hk
      exact .inr ⟨hnamed k hid, h.called k hid⟩
    · obtain ⟨⟨q, hq⟩, hunbound, hunreported⟩ := hsilent
      rw [hheard.bound_iff, Repository.bound_dropBinding] at hunbound
      exact .inl ⟨h.removal.exists_before hq, fun hbound => hunbound ⟨hbound, hk⟩,
        fun hreported => hunreported (hreported.later h.audit)⟩

/-- Taking an interface away again forgets only the owner of a port that is gone or reported. -/
theorem NicReverted.accounted {c networkId : String} {portId : Option String}
    (h : NicReverted c networkId portId d d') : Accounted named d d' := by
  rcases h.repository with hheard | ⟨id, hid, hheard⟩
  · exact .of_grows h.removal.journal_grows (fun _ _ => h.removal.exists_before) hheard h.audit
  · refine ⟨fun hr => hheard.harmless hr, h.removal.journal_grows, fun _ k hsilent => .inl ?_⟩
    obtain ⟨⟨q, hq⟩, hunbound, hunreported⟩ := hsilent
    have hk : k ≠ id := by
      intro h
      subst h
      rcases h.reported k hid with hgone | hreported
      · rw [hgone] at hq
        cases hq
      · exact hunreported hreported
    rw [hheard.bound_iff, Repository.bound_dropBinding] at hunbound
    exact ⟨h.removal.exists_before hq, fun hbound => hunbound ⟨hbound, hk⟩,
      fun hreported => hunreported (hreported.later h.audit)⟩

end Delta

end AmphoraWiring
