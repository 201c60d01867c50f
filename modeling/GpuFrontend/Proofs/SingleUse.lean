import GpuFrontend.Proofs.Markers

namespace GpuFrontend

-- A raw command whose payload cannot be assembled from the fields given is never added, so that
-- recording does not reach the list; every other recording is a call on the list.
def Recording.isCall : Recording → Bool
  | .raw kind fields => (Command.assemble kind fields).isSome
  | _ => true

namespace CommandList

namespace Op

def isExecute : Op → Bool
  | .execute .. => true
  | _ => false

def isReset : Op → Bool
  | .reset => true
  | _ => false

end Op

variable {l l' : CommandList}

theorem append_of_executed (he : l.executed = true) (c : Command) :
    l.append c = .error .recordedAfterExecute := by
  simp [append, he]

-- Every typed recording ends in `append`, and a raw one checks the flag first: on a replayed
-- list the only recording that does not fault is a raw command that never reaches it.
theorem record_of_executed (he : l.executed = true) {r : Recording} (h : l.record r = .ok l') :
    r.isCall = false ∧ l' = l := by
  cases r with
  | raw kind fields =>
    simp only [record] at h
    split at h
    · rename_i hc
      cases h
      exact ⟨by simp [Recording.isCall, hc], rfl⟩
    · simp [he] at h
  | pushMarker name color =>
    simp only [record, append_of_executed he, bind_eq_ok] at h
    obtain ⟨n, -, m, hm, -⟩ := h
    cases hm
  | popMarker =>
    simp only [record, append_of_executed he] at h
    split at h <;> simp [bind, Except.bind] at h
  | _ =>
    simp only [record, append_of_executed he] at h
    repeat' split at h
    all_goals cases h

theorem record_call_of_executed (he : l.executed = true) {r : Recording} (hc : r.isCall = true) :
    ∃ f, l.record r = .error f := by
  cases h : l.record r with
  | error f => exact ⟨f, rfl⟩
  | ok l' => simp [(record_of_executed he h).1] at hc

-- On a replayed list with every marker closed nothing but a reset succeeds in changing it: a
-- recording faults or leaves it, and a second replay faults as replayed twice.
theorem apply_of_replayed (he : l.executed = true) (hd : l.depth = 0) {op : Op}
    (hr : op.isReset = false) (h : Op.apply l op = .ok l') : l' = l ∧ op.isExecute = false := by
  cases op with
  | record r => exact ⟨(record_of_executed he h).2, rfl⟩
  | execute dev res =>
    simp only [Op.apply, execute_of_executed hd he] at h
    cases h
  | reset => cases hr

-- The segment after a replay and before the next reset: the list stays as the replay left it,
-- and the segment holds no replay that succeeded.
theorem runOps_of_replayed (he : l.executed = true) (hd : l.depth = 0) {ops : List Op}
    (hr : ∀ op ∈ ops, op.isReset = false) (h : l.runOps ops = .ok l') :
    l' = l ∧ ∀ op ∈ ops, op.isExecute = false := by
  induction ops with
  | nil =>
    cases h
    exact ⟨rfl, fun _ h => by simp at h⟩
  | cons op ops ih =>
    simp only [runOps, List.foldlM_cons, bind_eq_ok] at h
    obtain ⟨m, hm, hrest⟩ := h
    obtain ⟨rfl, hop⟩ := apply_of_replayed he hd (hr op List.mem_cons_self) hm
    obtain ⟨hl, hops⟩ := ih (fun o ho => hr o (List.mem_cons_of_mem _ ho)) hrest
    refine ⟨hl, fun o ho => ?_⟩
    rcases List.mem_cons.mp ho with rfl | ho
    · exact hop
    · exact hops o ho

theorem runOps_append (l : CommandList) (xs ys : List Op) :
    l.runOps (xs ++ ys) = l.runOps xs >>= fun m => m.runOps ys :=
  List.foldlM_append

-- A replay followed by no reset: the list is the replayed one from then on.
theorem runOps_execute_cons {dev : Device} {res : Resources} {post : List Op}
    (hr : ∀ op ∈ post, op.isReset = false) (h : l.runOps (.execute dev res :: post) = .ok l') :
    l.depth = 0 ∧ l' = { l with executed := true } ∧ ∀ op ∈ post, op.isExecute = false := by
  simp only [runOps, List.foldlM_cons, bind_eq_ok] at h
  obtain ⟨m, hm, hrest⟩ := h
  obtain ⟨hd, rfl⟩ := apply_execute hm
  obtain ⟨rfl, hpost⟩ := runOps_of_replayed (l := { l with executed := true }) rfl hd hr hrest
  exact ⟨hd, rfl, hpost⟩

-- A list is replayed at most once between resets: after a replay every recording that reaches the
-- list faults and a second replay faults as replayed twice; a reset makes the list a new one.
theorem replayed_once_between_resets (ops : List Op) (l : CommandList)
    (hrun : empty.runOps ops = .ok l) :
    (∀ pre mid post (dev : Device) (res : Resources) (dev' : Device) (res' : Resources),
      ops = pre ++ .execute dev res :: (mid ++ .execute dev' res' :: post) →
      ∃ op ∈ mid, op.isReset = true) ∧
    (∀ pre post (dev : Device) (res : Resources), ops = pre ++ .execute dev res :: post →
      (∀ op ∈ post, op.isReset = false) →
      (∃ m, empty.runOps pre = .ok m ∧ m.depth = 0 ∧ l = { m with executed := true }) ∧
      (∀ dev' res', l.execute dev' res' = .error .executedTwice) ∧
      (∀ r, r.isCall = true → ∃ f, l.record r = .error f) ∧
      (∀ r l', l.record r = .ok l' → l' = l)) ∧
    l.reset = empty ∧ (∀ ops', l.runOps (.reset :: ops') = empty.runOps ops') ∧
    (∀ (dev : Device) res, dev.openStream = none →
      dev.stats.commandStreams.toNat + 1 < UInt32.size →
      ∃ dev', l.reset.execute dev res = .ok ({ executed := true }, dev')) := by
  refine ⟨?_, ?_, rfl, fun _ => rfl, ?_⟩
  · intro pre mid post dev res dev' res' hops
    by_cases hsome : ∃ op ∈ mid, op.isReset = true
    · exact hsome
    have hmid : ∀ op ∈ mid, op.isReset = false := by
      intro op hop
      simpa using fun h => hsome ⟨op, hop, h⟩
    rw [hops, runOps_append, bind_eq_ok] at hrun
    obtain ⟨m, -, hrest⟩ := hrun
    rw [← List.cons_append, runOps_append, bind_eq_ok] at hrest
    obtain ⟨m', hm', hlast⟩ := hrest
    obtain ⟨hd, rfl, -⟩ := runOps_execute_cons hmid hm'
    simp only [runOps, List.foldlM_cons, bind_eq_ok] at hlast
    obtain ⟨m'', hm'', -⟩ := hlast
    -- the list is replayed with every marker closed, so the second replay faults
    have hsecond := (apply_of_replayed (l := { m with executed := true }) rfl hd rfl hm'').2
    simp [Op.isExecute] at hsecond
  · intro pre post dev res hops hpost
    rw [hops, runOps_append, bind_eq_ok] at hrun
    obtain ⟨m, hm, hrest⟩ := hrun
    obtain ⟨hd, rfl, -⟩ := runOps_execute_cons hpost hrest
    refine ⟨⟨m, hm, hd, rfl⟩, fun _ _ => execute_of_executed hd rfl,
      fun _ hc => record_call_of_executed rfl hc, fun _ _ h => (record_of_executed rfl h).2⟩
  · intro dev res ho hs
    exact ⟨_, execute_of_issued rfl rfl ho hs (fun _ h => by simp [reset, empty] at h)⟩

-- A marker closed, a replay, a raw draw with no model, a reset, a dispatch and a second replay:
-- the reset allowed the second replay, and the list now refuses a third.
theorem replayed_once_between_resets_after_reset :
    let ops : List Op := [.record (.pushMarker "Opaque" .white), .record .popMarker,
      .execute {} (Resources.empty default), .record (.raw .draw {}), .reset,
      .record (.dispatch 1 1 1), .execute {} (Resources.empty default)]
    let l : CommandList := { commands := #[.dispatch 1 1 1], executed := true }
    empty.runOps ops = .ok l ∧ ∀ dev res, l.execute dev res = .error .executedTwice := by
  intro ops l
  have hrun : empty.runOps ops = .ok l := by rfl
  have hafter := (replayed_once_between_resets ops l hrun).2.1 (ops.take 6) [] {}
    (Resources.empty default) rfl (fun _ h => by simp at h)
  exact ⟨hrun, hafter.2.1⟩

end CommandList

end GpuFrontend
