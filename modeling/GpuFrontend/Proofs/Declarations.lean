import GpuFrontend.Proofs.Lifecycle

namespace GpuFrontend

section EraseDups

variable {α : Type} [BEq α] [LawfulBEq α]

-- Appending an element adds it to the distinct elements of a list unless the list holds it
-- already: the distinct elements stand in order of first occurrence.
theorem eraseDups_concat (L : List α) (x : α) :
    (L ++ [x]).eraseDups = L.eraseDups ++ if x ∈ L then [] else [x] := by
  rw [List.eraseDups_append]
  by_cases hx : x ∈ L
  · simp [List.removeAll, hx]
  · simp [List.removeAll, hx, List.eraseDups_cons]

-- The head is kept and its copies are dropped from the tail, so it occurs once; the tail is
-- shorter, which carries the recursion.
theorem nodup_eraseDups : ∀ L : List α, L.eraseDups.Nodup
  | [] => by simp
  | x :: L => by
    rw [List.eraseDups_cons, List.nodup_cons]
    refine ⟨by simp, nodup_eraseDups _⟩
termination_by L => L.length
decreasing_by
  have hlen := List.length_filter_le (fun y => !y == x) L
  simp only [List.length_cons]
  omega

end EraseDups

namespace Handle

theorem isValid_eq_false_iff {k : HandleKind} (h : Handle k) :
    h.isValid = false ↔ h = .invalid k := by
  constructor
  · intro hv
    apply ext_raw
    simpa [isValid, invalid] using hv
  · rintro rfl
    exact invalid_isValid k

end Handle

namespace GraphResource

-- A resource is refused exactly when its handle is the sentinel of its kind.
theorem isValid_eq_false_iff (r : GraphResource) :
    r.isValid = false ↔
      r = .image (.invalid _) ∨ r = .depthImage (.invalid _) ∨ r = .texture (.invalid _) ∨
        r = .textureArray (.invalid _) ∨ r = .buffer (.invalid _) := by
  cases r <;> simp [isValid, Handle.isValid_eq_false_iff]

end GraphResource

namespace Builder

def entry (d : Access × GraphResource) : ResourceAccess := ⟨d.2, d.1⟩

variable {b b' : Builder} {a : Access} {r : GraphResource}

theorem ext_accesses (h : b.accesses.toList = b'.accesses.toList) : b = b' := by
  cases b
  cases b'
  simpa [Array.toList_inj] using h

theorem declareAll_nil : b.declareAll [] = .ok b := rfl

theorem declareAll_cons (d : Access × GraphResource) (ds : List (Access × GraphResource)) :
    b.declareAll (d :: ds) = (b.declare d.1 d.2 >>= fun b => b.declareAll ds) := rfl

theorem declare_of_invalid (hr : r.isValid = false) :
    b.declare a r = .error (.invalidDeclaration a r) := by
  simp [declare, hr]

-- A valid declaration adds its entry, unless the builder holds the entry already.
theorem declare_of_valid (hr : r.isValid = true) :
    b.declare a r = .ok { accesses :=
      if (⟨r, a⟩ : ResourceAccess) ∈ b.accesses then b.accesses else b.accesses.push ⟨r, a⟩ } := by
  by_cases hm : (⟨r, a⟩ : ResourceAccess) ∈ b.accesses
  · simp [declare, hr, hm]
  · simp [declare, hr, hm]

-- Declaring from a builder that holds the distinct entries of `L` leaves the distinct entries
-- of `L` followed by the declared ones. The induction is on the declarations, with `L` growing
-- by each entry declared.
theorem declareAll_of_valid :
    ∀ {ds : List (Access × GraphResource)} {b : Builder} {L : List ResourceAccess},
      b.accesses.toList = L.eraseDups → (∀ d ∈ ds, d.2.isValid = true) →
      ∃ b', b.declareAll ds = .ok b' ∧ b'.accesses.toList = (L ++ ds.map entry).eraseDups
  | [], b, L, hb, _ => ⟨b, rfl, by simpa using hb⟩
  | (a, r) :: ds, b, L, hb, hv => by
    have hr : r.isValid = true := hv _ List.mem_cons_self
    -- the builder after the first declaration holds the distinct entries of `L ++ [⟨r, a⟩]`
    have hstep : (if (⟨r, a⟩ : ResourceAccess) ∈ b.accesses then b.accesses
        else b.accesses.push ⟨r, a⟩).toList = (L ++ [(⟨r, a⟩ : ResourceAccess)]).eraseDups := by
      have hmem : (⟨r, a⟩ : ResourceAccess) ∈ b.accesses ↔ ⟨r, a⟩ ∈ L := by
        rw [← Array.mem_toList_iff, hb, List.mem_eraseDups]
      rw [eraseDups_concat, ← hb]
      by_cases hm : (⟨r, a⟩ : ResourceAccess) ∈ L
      · simp [hmem.mpr hm, hm]
      · simp [mt hmem.mp hm, hm]
    obtain ⟨b', hrun, hb'⟩ := declareAll_of_valid (b := { accesses := _ }) hstep
      (fun d hd => hv d (List.mem_cons_of_mem _ hd))
    refine ⟨b', ?_, ?_⟩
    · rw [declareAll_cons, declare_of_valid hr, ok_bind]
      exact hrun
    · rw [hb']
      simp [entry]

theorem valid_of_declareAll_eq_ok :
    ∀ {ds : List (Access × GraphResource)} {b b' : Builder},
      b.declareAll ds = .ok b' → ∀ d ∈ ds, d.2.isValid = true
  | [], _, _, _ => by simp
  | (a, r) :: ds, b, b', h => by
    cases hr : r.isValid with
    | false => simp [declareAll_cons, declare_of_invalid hr] at h
    | true =>
      rw [declareAll_cons, declare_of_valid hr, ok_bind] at h
      exact List.forall_mem_cons.mpr ⟨hr, valid_of_declareAll_eq_ok h⟩

-- Declarations from a builder holding the distinct entries of `L` succeed exactly when every
-- declared resource is valid, and then leave the distinct entries of `L` and the declarations.
theorem declareAll_eq_ok_iff {ds : List (Access × GraphResource)} {L : List ResourceAccess}
    (hb : b.accesses.toList = L.eraseDups) :
    b.declareAll ds = .ok b' ↔
      (∀ d ∈ ds, d.2.isValid = true) ∧ b'.accesses.toList = (L ++ ds.map entry).eraseDups := by
  constructor
  · intro h
    have hv := valid_of_declareAll_eq_ok h
    obtain ⟨b'', hrun, hb''⟩ := declareAll_of_valid hb hv
    obtain rfl : b' = b'' := Except.ok.inj (h.symm.trans hrun)
    exact ⟨hv, hb''⟩
  · rintro ⟨hv, hb'⟩
    obtain ⟨b'', hrun, hb''⟩ := declareAll_of_valid hb hv
    rw [hrun, ext_accesses (hb''.trans hb'.symm)]

-- A run of declarations faults exactly when one is invalid, at the first invalid one, with the
-- fault naming its access and resource.
theorem declareAll_eq_error_iff :
    ∀ {ds : List (Access × GraphResource)} {b : Builder} {f : Fault},
      b.declareAll ds = .error f ↔ ∃ pre a r post, ds = pre ++ (a, r) :: post ∧
        (∀ d ∈ pre, d.2.isValid = true) ∧ r.isValid = false ∧ f = .invalidDeclaration a r
  | [], b, f => by simp [declareAll_nil]
  | (a, r) :: ds, b, f => by
    rw [declareAll_cons]
    cases hr : r.isValid with
    | false =>
      rw [declare_of_invalid hr, error_bind]
      constructor
      · rintro ⟨⟩
        exact ⟨[], a, r, ds, rfl, by simp, hr, rfl⟩
      · rintro ⟨pre, a', r', post, hds, hpre, -, rfl⟩
        cases pre with
        | nil =>
          obtain ⟨⟨rfl, rfl⟩, -⟩ := by simpa using hds
          rfl
        | cons d pre =>
          obtain ⟨rfl, -⟩ := List.cons.inj hds
          simp [hr] at hpre
    | true =>
      rw [declare_of_valid hr, ok_bind, declareAll_eq_error_iff]
      constructor
      · rintro ⟨pre, a', r', post, rfl, hpre, hr', rfl⟩
        exact ⟨(a, r) :: pre, a', r', post, rfl, List.forall_mem_cons.mpr ⟨hr, hpre⟩, hr', rfl⟩
      · rintro ⟨pre, a', r', post, hds, hpre, hr', rfl⟩
        cases pre with
        | nil =>
          obtain ⟨⟨-, rfl⟩, -⟩ := by simpa using hds
          simp [hr] at hr'
        | cons d pre =>
          obtain ⟨rfl, rfl⟩ := List.cons.inj hds
          exact ⟨pre, a', r', post, rfl, fun d hd => hpre d (List.mem_cons_of_mem _ hd), hr', rfl⟩

-- The entries of one access, in order, are the resources declared with it.
theorem filter_access (b : Builder) (a : Access) :
    b.accesses.toList.filter (·.access == a) = (b.withAccess a).map (ResourceAccess.mk · a) := by
  rw [withAccess, List.map_map]
  refine (List.map_id _).symm.trans (List.map_congr_left fun x hx => ?_)
  have hxa : x.access = a := by simpa using (List.mem_filter.mp hx).2
  cases x
  simp_all

theorem reads_writes_perm (b : Builder) :
    (b.reads.map (ResourceAccess.mk · .read) ++ b.writes.map (ResourceAccess.mk · .write)).Perm b.accesses.toList := by
  rw [reads, writes, ← filter_access, ← filter_access]
  have hwrite : (fun x : ResourceAccess => x.access == .write) =
      fun x => !(x.access == .read) := by
    funext x
    cases x.access <;> rfl
  rw [hwrite]
  exact List.filter_append_perm _ _

end Builder

namespace RenderGraph

variable {g g' : RenderGraph}

-- The builder a pass's setup gives is the one its declarations leave from a fresh builder.
theorem RenderPass.declareAll_of_setup {p : RenderPass} {accepted : Bool} {b : Builder}
    (hs : p.setup = .ok (accepted, b)) :
    ({} : Builder).declareAll p.script.declarations = .ok b := by
  have hp : p.deinit = false := (RenderPass.setup_eq_ok_inv hs).1
  simp only [RenderPass.setup, hp, Bool.false_eq_true, ↓reduceIte, bind_eq_ok, pure_eq_ok,
    Prod.mk.injEq] at hs
  obtain ⟨b', hb', -, rfl⟩ := hs
  exact hb'

-- A setup that succeeded stores, for each pass it set up, the distinct entries its declarations
-- make in order of first declaration, whether the pass's answer was to run or to skip.
theorem setup_stores_usage (h : g.setup = .ok g') {i : Nat} {n : PassNode}
    (hn : g.nodes[i]? = some n) (hd : n.state = .declared) :
    ∃ n', g'.nodes[i]? = some n' ∧
      n'.usage.toList = (n.pass.script.declarations.map Builder.entry).eraseDups ∧
      n'.state = if n.pass.script.accepts then .ready else .skipped := by
  obtain ⟨accepted, b, hs⟩ := setup_declared_eq_ok h (Array.mem_of_getElem? hn) hd
  obtain ⟨-, rfl⟩ := setup_eq_ok_inv h
  have husage :=
    ((Builder.declareAll_eq_ok_iff (L := []) rfl).mp (RenderPass.declareAll_of_setup hs)).2
  refine ⟨n.setUp RenderPass.declared, by simp [hn], ?_, ?_⟩
  · rw [PassNode.setUp_usage, if_pos hd, RenderPass.declared_eq hs, husage, List.nil_append]
  · rw [PassNode.setUp_state, if_pos hd]

end RenderGraph

-- What a pass's setup declares: a run of declarations faults at its first sentinel; otherwise the
-- builder holds the distinct entries in order of first declaration, split into reads and writes,
-- and a graph's setup stores them as the pass's usage.
theorem declarations_recorded (ds : List (Access × GraphResource)) :
    (∀ r : GraphResource, r.isValid = false ↔
      r = .image (.invalid _) ∨ r = .depthImage (.invalid _) ∨ r = .texture (.invalid _) ∨
        r = .textureArray (.invalid _) ∨ r = .buffer (.invalid _)) ∧
    (∀ f, ({} : Builder).declareAll ds = .error f ↔ ∃ pre a r post, ds = pre ++ (a, r) :: post ∧
      (∀ d ∈ pre, d.2.isValid = true) ∧ r.isValid = false ∧ f = .invalidDeclaration a r) ∧
    (∀ b, ({} : Builder).declareAll ds = .ok b ↔
      (∀ d ∈ ds, d.2.isValid = true) ∧ b.accesses.toList = (ds.map Builder.entry).eraseDups) ∧
    (∀ b, ({} : Builder).declareAll ds = .ok b →
      b.accesses.toList.Nodup ∧ (∀ x, x ∈ b.accesses.toList ↔ ∃ d ∈ ds, Builder.entry d = x) ∧
      b.accesses.toList.filter (·.access == .read) = b.reads.map (ResourceAccess.mk · .read) ∧
      b.accesses.toList.filter (·.access == .write) = b.writes.map (ResourceAccess.mk · .write) ∧
      (b.reads.map (ResourceAccess.mk · .read) ++ b.writes.map (ResourceAccess.mk · .write)).Perm b.accesses.toList) ∧
    (∀ (g g' : RenderGraph) (i : Nat) (n : PassNode), g.setup = .ok g' → g.nodes[i]? = some n →
      n.state = .declared → ∃ n', g'.nodes[i]? = some n' ∧
        n'.usage.toList = (n.pass.script.declarations.map Builder.entry).eraseDups ∧
        n'.state = if n.pass.script.accepts then .ready else .skipped) := by
  have hok : ∀ b, ({} : Builder).declareAll ds = .ok b ↔
      (∀ d ∈ ds, d.2.isValid = true) ∧ b.accesses.toList = (ds.map Builder.entry).eraseDups :=
    fun b => Builder.declareAll_eq_ok_iff (L := []) rfl
  refine ⟨GraphResource.isValid_eq_false_iff, fun f => Builder.declareAll_eq_error_iff, hok,
    fun b h => ?_, fun g g' i n h hn hd => RenderGraph.setup_stores_usage h hn hd⟩
  have hb := ((hok b).mp h).2
  refine ⟨hb ▸ nodup_eraseDups _, fun x => ?_, (Builder.filter_access b .read),
    (Builder.filter_access b .write), Builder.reads_writes_perm b⟩
  rw [hb, List.mem_eraseDups, List.mem_map]

-- A pass that reads a texture twice and writes an image, and declines to run: its builder holds
-- the read once and the write, the setup skips the pass and stores both entries as its usage;
-- a write of the image sentinel after the read faults, naming the sentinel.
theorem declarations_recorded_read_twice :
    let t : GraphResource := .texture (Handle.ofIndexLt 1 (by decide))
    let i : GraphResource := .image (Handle.ofIndexLt 0 (by decide))
    let ds : List (Access × GraphResource) := [(.read, t), (.write, i), (.read, t)]
    let g : RenderGraph := { nodes := #[{ pass :=
      ⟨⟨"Shadows", by decide, by decide⟩, { accepts := false, declarations := ds }, false⟩ }] }
    (∃ b, ({} : Builder).declareAll ds = .ok b ∧ b.reads = [t] ∧ b.writes = [i]) ∧
    (∃ g' n', g.setup = .ok g' ∧ g'.nodes[0]? = some n' ∧
      n'.usage.toList = [⟨t, .read⟩, ⟨i, .write⟩] ∧ n'.state = .skipped) ∧
    ({} : Builder).declareAll [(.read, t), (.write, .image (.invalid _))] =
      .error (.invalidDeclaration .write (.image (.invalid _))) := by
  intro t i ds g
  obtain ⟨-, -, hok, hbuilt, hsetup⟩ := declarations_recorded ds
  have hentries : (ds.map Builder.entry).eraseDups = [⟨t, .read⟩, ⟨i, .write⟩] := by decide
  have hv : ∀ d ∈ ds, d.2.isValid = true := by decide
  refine ⟨?_, ?_, ?_⟩
  · -- the builder the declarations leave, read through its reads and writes
    let b : Builder := { accesses := #[⟨t, .read⟩, ⟨i, .write⟩] }
    have hb : ({} : Builder).declareAll ds = .ok b := (hok b).mpr ⟨hv, hentries.symm⟩
    obtain ⟨-, -, hr, hw, -⟩ := hbuilt b hb
    refine ⟨b, hb, ?_, ?_⟩
    · simpa [b] using hr.symm
    · simpa [b] using hw.symm
  · -- the setup, evaluated by the kernel on the states and usage it leaves
    have hrun : g.setup.toOption.map (fun g' => g'.nodes.size) = some 1 := by decide +kernel
    cases hg : g.setup with
    | error e => simp [hg, Except.toOption] at hrun
    | ok g' =>
      obtain ⟨n', hn', husage, hstate⟩ := hsetup g g' 0 _ hg rfl rfl
      exact ⟨g', n', rfl, hn', husage.trans hentries, hstate⟩
  · exact ((declarations_recorded _).2.1 _).mpr
      ⟨[(.read, t)], .write, .image (.invalid _), [], rfl, by decide, by decide, rfl⟩

end GpuFrontend
