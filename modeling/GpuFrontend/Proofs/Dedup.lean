import GpuFrontend.Proofs.Reachable

namespace GpuFrontend

-- The file of the placeholder, when the configuration names one.
def Config.placeholderFile? (cfg : Config) : Option Path :=
  match cfg.placeholder with
  | .file p => some p
  | _ => none

namespace Renderer

variable {r r' : Renderer}

-- What a load does to the texture index: nothing, or one entry for the file, and then the
-- device counted one texture more.
theorem loadTexture_index {p : Path} {a : Attempt (Handle .texture)}
    (h : r.loadTexture p = .ok (r', a)) :
    (r'.resources.loaded = r.resources.loaded ∧
      r'.device.stats.textures = r.device.stats.textures) ∨
    (∃ t, a = .ok t ∧ r'.resources.loaded = r.resources.loaded.push (.ofPath p, t) ∧
      r'.device.stats.textures = r.device.stats.textures + 1) := by
  obtain ⟨-, hcases⟩ := loadTexture_eq_ok h
  rcases hcases with ⟨t, -, rfl, -⟩ | ⟨-, hmiss⟩
  · exact .inl ⟨rfl, rfl⟩
  rcases hmiss with ⟨e, -, rfl, -⟩ | ⟨img, r₂, m, -, hi, hm⟩
  · exact .inl ⟨rfl, rfl⟩
  rcases insertTexture_eq_ok hi with ⟨-, rfl, hm'⟩ | ⟨-, t, T, hm', -, -, rfl⟩
  · rcases hm with ⟨e, -, rfl, -⟩ | ⟨t, rfl, -, -⟩
    · exact .inl ⟨rfl, rfl⟩
    · cases hm'
  · rcases hm with ⟨e, rfl, -, -⟩ | ⟨t', ht', ha, rfl⟩
    · cases hm'
    · rw [hm'] at ht'
      cases ht'
      exact .inr ⟨t, ha, rfl, by simp⟩

-- A load into an array answers a texture indexed under the file: the member that already
-- holds the file, or the texture loaded for it. Only that load can add to the index.
theorem TexturesSound.loadTextureIntoArray_index (hs : r.TexturesSound) {p : Path}
    {a : Handle .textureArray} {x : Attempt (Nat × Handle .texture)}
    (h : r.loadTextureIntoArray p a = .ok (r', x)) :
    (∀ slot t, x = .ok (slot, t) → (Fingerprint.ofPath p, t) ∈ r'.resources.loaded) ∧
    ((r'.resources.loaded = r.resources.loaded ∧
      r'.device.stats.textures = r.device.stats.textures) ∨
    (∃ slot t, x = .ok (slot, t) ∧ r'.resources.loaded = r.resources.loaded.push (.ofPath p, t) ∧
      r'.device.stats.textures = r.device.stats.textures + 1)) := by
  obtain ⟨-, -, arr, harr, hcases⟩ := loadTextureIntoArray_eq_ok h
  rcases hcases with ⟨slot, hslot, rfl, rfl⟩ | ⟨-, -, r₁, m, hl, hm⟩
  · -- the array holds the file already: its member's record carries the file's fingerprint
    refine ⟨fun slot' t h => ?_, .inl ⟨rfl, rfl⟩⟩
    obtain ⟨rfl, rfl⟩ := Prod.mk.inj (Except.ok.inj h)
    have hb := hs.arrays arr (Array.mem_of_getElem? harr)
    obtain ⟨hnone, hfp⟩ := TextureArray.slotOf?_eq_some hslot
    have hlt : slot < arr.members.size := by
      rw [← hb.fingerprints_size]
      exact (Array.getElem?_eq_some_iff.mp hfp).1
    have hmem : arr.members[slot]? = some arr.members[slot]! := by
      rw [getElem!_pos arr.members slot hlt, Array.getElem?_eq_getElem hlt]
    obtain ⟨rec, hrec, hfp', -⟩ := hb.member slot _ hmem
    rw [hfp] at hfp'
    exact (hs.index.mem_loaded _ _).mpr ⟨hnone, rec, hrec, (Option.some.inj hfp').symm⟩
  -- otherwise the file is loaded, and appended to the array if that succeeded
  rcases hm with ⟨e, rfl, rfl, rfl⟩ | ⟨t, slot, rfl, happ, rfl⟩
  · refine ⟨(fun _ _ h => by cases h), ?_⟩
    rcases loadTexture_index hl with hkeep | ⟨t, ht, -, -⟩
    · exact .inl hkeep
    · cases ht
  · obtain ⟨-, hl', ht'⟩ := appendToArray_keeps happ
    refine ⟨fun slot' t' h => ?_, ?_⟩
    · obtain ⟨-, rfl⟩ := Prod.mk.inj (Except.ok.inj h)
      exact hl' ▸ hs.loadTexture_mem hl
    · rcases loadTexture_index hl with ⟨hk, hc⟩ | ⟨t', ht, hk, hc⟩
      · exact .inl ⟨hl'.trans hk, ht'.trans hc⟩
      · cases ht
        exact .inr ⟨slot, t, rfl, hl'.trans hk, ht'.trans hc⟩

end Renderer

namespace Session

open Renderer

-- A load that succeeded, direct or into an array: the file and the texture it answered.
def Transition.loadEvent (t : Transition) : Option (Path × Nat) :=
  match t.step, t.reply with
  | .loadTexture p, .ok (.count n) => some (p, n)
  | .loadTextureIntoArray p _, .ok (.slot _ n) => some (p, n)
  | _, _ => none

-- A data texture that was made, alone or into an array: the texture it answered.
def Transition.dataEvent (t : Transition) : Option Nat :=
  match t.step, t.reply with
  | .createDataTexture _, .ok (.count n) => some n
  | .createDataTextureIntoArray _ _, .ok (.slot _ n) => some n
  | _, _ => none

-- The textures the device created in a step that loads a file.
def Transition.loadCreations (t : Transition) : Nat :=
  if t.step.loadsFile then
    t.after.renderer.device.stats.textures - t.before.renderer.device.stats.textures
  else 0

-- The textures the device created while building, when the placeholder was loaded from a file.
def placeholderCreations (cfg : Config) (r₀ : Renderer) : Nat :=
  (cfg.placeholderFile?.map fun _ => r₀.device.stats.textures).getD 0

-- Every load that succeeded along a session, with the texture it answered: the placeholder's
-- file first, then the steps' loads in order.
def loads (cfg : Config) (r₀ : Renderer) (ts : List Transition) : List (Path × Nat) :=
  (cfg.placeholderFile?.map fun p => (p, r₀.resources.placeholder.raw)).toList ++
    ts.filterMap Transition.loadEvent

variable {cfg : Config} {r₀ : Renderer} {ts : List Transition} {t : Transition}

theorem loads_snoc : loads cfg r₀ (ts ++ [t]) = loads cfg r₀ ts ++ t.loadEvent.toList := by
  cases h : t.loadEvent <;> simp [loads, h]

theorem loadEvent_of_not_loadsFile (h : t.step.loadsFile = false) : t.loadEvent = none := by
  unfold Transition.loadEvent
  split <;> simp_all [Step.loadsFile]

-- What a session keeps about its loads: the textures' invariant; every load's texture indexed
-- under its file's fingerprint and the index holding nothing else; one entry in the index per
-- texture a load created; and every data texture fresh when made, and recorded without a
-- fingerprint.
structure LoadsSound (cfg : Config) (r₀ : Renderer) (s : State) (ts : List Transition) : Prop where
  textures : s.renderer.TexturesSound
  indexed : ∀ e ∈ loads cfg r₀ ts, ∃ t : Handle .texture, t.raw = e.2 ∧
    (Fingerprint.ofPath e.1, t) ∈ s.renderer.resources.loaded
  onlyLoads : ∀ f t, (f, t) ∈ s.renderer.resources.loaded →
    ∃ e ∈ loads cfg r₀ ts, Fingerprint.ofPath e.1 = f
  created : s.renderer.resources.loaded.size =
    placeholderCreations cfg r₀ + (ts.map Transition.loadCreations).sum
  data : ∀ t ∈ ts, ∀ n, t.dataEvent = some n → n = t.before.renderer.resources.textures.size ∧
    ∃ rec, s.renderer.resources.textures.entries[n]? = some rec ∧ rec.fingerprint = .none

namespace State

variable {s s' : State} {reply : Except ResourceError Reply}

theorem attempt_eq_ok_ok {β : Type} {op : Renderer → Except Fault (Renderer × Attempt β)}
    {f : β → Reply} {x : Reply} (h : s.attempt op f = .ok (s', .ok x)) :
    ∃ r b, op s.renderer = .ok (r, .ok b) ∧ s' = { s with renderer := r } ∧ f b = x := by
  obtain ⟨r, m, hop, rfl, hm⟩ := attempt_eq_ok h
  cases m with
  | error e => cases hm
  | ok b =>
    cases hm
    exact ⟨r, b, hop, rfl, rfl⟩

-- A data texture made by a step: the next texture, recorded without a fingerprint.
theorem exec_dataEvent {step : Step} {n : Nat} (he : s.exec step = .ok (s', reply))
    (hd : (Transition.mk s step reply s').dataEvent = some n) :
    n = s.renderer.resources.textures.size ∧
      ∃ rec, s'.renderer.resources.textures.entries[n]? = some rec ∧ rec.fingerprint = .none := by
  unfold Transition.dataEvent at hd
  split at hd
  · rename_i d n' hstep hreply
    cases hd
    simp only at hstep hreply
    subst hstep hreply
    obtain ⟨r, tex, hop, rfl, hx⟩ := attempt_eq_ok_ok (by simpa only [exec] using he)
    cases hx
    exact Renderer.insertTexture_record (Renderer.createDataTexture_eq_ok hop).2
  · rename_i d arr slot n' hstep hreply
    cases hd
    simp only at hstep hreply
    subst hstep hreply
    obtain ⟨r, ⟨slot', tex⟩, hop, rfl, hx⟩ := attempt_eq_ok_ok (by simpa only [exec] using he)
    cases hx
    obtain ⟨-, arr', -, -, r₁, m, hc, hm⟩ := Renderer.createDataTextureIntoArray_eq_ok hop
    rcases hm with ⟨e, -, -, hx⟩ | ⟨tex', slot'', rfl, happ, hx⟩
    · cases hx
    · obtain ⟨-, rfl⟩ := Prod.mk.inj (Except.ok.inj hx)
      obtain ⟨hfresh, rec, hrec, hnone⟩ := Renderer.insertTexture_record (Renderer.createDataTexture_eq_ok hc).2
      refine ⟨hfresh, rec, ?_, hnone⟩
      rw [(Renderer.appendToArray_keeps happ).1]
      exact hrec
  · cases hd

end State

-- One step keeps the invariant, given what it did: the textures only grew; the index is as
-- it was, or holds one entry more, for the load the step answered, with one texture created;
-- every load it answered is indexed; every data texture it made is fresh and unfingerprinted.
theorem LoadsSound.snoc {s : State} (hs : LoadsSound cfg r₀ s ts) (hb : t.before = s)
    (hsound : t.after.renderer.TexturesSound)
    (hext : s.renderer.resources.textures.Extends t.after.renderer.resources.textures)
    (hev : ∀ e, t.loadEvent = some e → ∃ tex : Handle .texture, tex.raw = e.2 ∧
      (Fingerprint.ofPath e.1, tex) ∈ t.after.renderer.resources.loaded)
    (hidx : (t.after.renderer.resources.loaded = s.renderer.resources.loaded ∧
        t.loadCreations = 0) ∨
      (∃ e tex, t.loadEvent = some e ∧ t.after.renderer.resources.loaded =
        s.renderer.resources.loaded.push (Fingerprint.ofPath e.1, tex) ∧ t.loadCreations = 1))
    (hdata : ∀ n, t.dataEvent = some n → n = s.renderer.resources.textures.size ∧
      ∃ rec, t.after.renderer.resources.textures.entries[n]? = some rec ∧
        rec.fingerprint = .none) :
    LoadsSound cfg r₀ t.after (ts ++ [t]) := by
  have hmono : ∀ x ∈ s.renderer.resources.loaded, x ∈ t.after.renderer.resources.loaded := by
    rcases hidx with ⟨heq, -⟩ | ⟨e, tex, -, heq, -⟩ <;> rw [heq]
    · exact fun _ h => h
    · exact fun _ h => Array.mem_push.mpr (.inl h)
  refine ⟨hsound, ?_, ?_, ?_, ?_⟩
  · intro e he
    rw [loads_snoc, List.mem_append] at he
    rcases he with he | he
    · obtain ⟨tex, hraw, hmem⟩ := hs.indexed e he
      exact ⟨tex, hraw, hmono _ hmem⟩
    · exact hev e (Option.mem_toList.mp he)
  · intro f tex hmem
    rw [loads_snoc]
    rcases hidx with ⟨heq, -⟩ | ⟨e, tex', he, heq, -⟩
    · obtain ⟨e, he, hf⟩ := hs.onlyLoads f tex (heq ▸ hmem)
      exact ⟨e, List.mem_append_left _ he, hf⟩
    · rw [heq] at hmem
      rcases Array.mem_push.mp hmem with hmem | hnew
      · obtain ⟨e', he', hf⟩ := hs.onlyLoads f tex hmem
        exact ⟨e', List.mem_append_left _ he', hf⟩
      · obtain ⟨rfl, -⟩ := Prod.mk.inj hnew
        exact ⟨e, List.mem_append_right _ (by simp [he]), rfl⟩
  · -- the index grew by the textures the step's load created
    rcases hidx with ⟨heq, hc⟩ | ⟨e, tex, -, heq, hc⟩
    · simp [heq, hc, hs.created]
    · simp only [heq, Array.size_push, hs.created, List.map_append, List.map_cons, List.map_nil,
        List.sum_append, List.sum_cons, List.sum_nil, hc]
      omega
  · intro t' ht' n hn
    rcases List.mem_append.mp ht' with ht' | ht'
    · obtain ⟨hfresh, rec, hrec, hnone⟩ := hs.data t' ht' n hn
      exact ⟨hfresh, rec, hext n rec hrec, hnone⟩
    · obtain rfl := List.mem_singleton.mp ht'
      rw [hb]
      exact hdata n hn

theorem Step.loadsFile_eq_true {step : Step} (h : step.loadsFile = true) :
    (∃ p, step = .loadTexture p) ∨ (∃ p a, step = .loadTextureIntoArray p a) := by
  cases step <;> simp_all [Step.loadsFile]

-- Every step keeps the invariant: a load as `loadTexture_index` says, any other step leaving
-- the index and the device's count of loaded textures alone.
theorem LoadsSound.step {s : State} (hs : LoadsSound cfg r₀ s ts) (hb : t.before = s)
    (he : s.exec t.step = .ok (t.after, t.reply)) : LoadsSound cfg r₀ t.after (ts ++ [t]) := by
  obtain ⟨before, step, reply, after⟩ := t
  simp only at hb he
  subst hb
  have hstep := State.exec_rendererStep he
  have hsound := hstep.texturesSound hs.textures
  obtain ⟨hext, -, hkeep⟩ := hstep.textures_grow
  have hdata := fun (n : Nat) hn => State.exec_dataEvent (n := n) he hn
  rcases Bool.eq_false_or_eq_true step.loadsFile with hl | hl
  · rcases Step.loadsFile_eq_true hl with ⟨p, rfl⟩ | ⟨p, arr, rfl⟩
    · -- a direct load
      obtain ⟨r, m, hop, rfl, rfl⟩ := State.attempt_eq_ok (by simpa only [State.exec] using he)
      refine hs.snoc rfl hsound hext ?_ ?_ hdata
      · intro e he'
        cases m with
        | error _ => simp [Transition.loadEvent, Except.map] at he'
        | ok tex =>
          simp only [Transition.loadEvent, Except.map, Option.some.injEq] at he'
          subst he'
          exact ⟨tex, rfl, hs.textures.loadTexture_mem hop⟩
      · rcases Renderer.loadTexture_index hop with ⟨hk, hc⟩ | ⟨tex, rfl, hk, hc⟩
        · exact .inl ⟨hk, by simp [Transition.loadCreations, Step.loadsFile, hc]⟩
        · exact .inr ⟨(p, tex.raw), tex, by simp [Transition.loadEvent, Except.map], hk,
            by simp [Transition.loadCreations, Step.loadsFile, hc]⟩
    · -- a load into an array
      obtain ⟨r, m, hop, rfl, rfl⟩ := State.attempt_eq_ok (by simpa only [State.exec] using he)
      obtain ⟨hans, hidx⟩ := hs.textures.loadTextureIntoArray_index hop
      refine hs.snoc rfl hsound hext ?_ ?_ hdata
      · intro e he'
        cases m with
        | error _ => simp [Transition.loadEvent, Except.map] at he'
        | ok x =>
          obtain ⟨slot, tex⟩ := x
          simp only [Transition.loadEvent, Except.map, Option.some.injEq] at he'
          subst he'
          exact ⟨tex, rfl, hans slot tex rfl⟩
      · rcases hidx with ⟨hk, hc⟩ | ⟨slot, tex, rfl, hk, hc⟩
        · exact .inl ⟨hk, by simp [Transition.loadCreations, Step.loadsFile, hc]⟩
        · exact .inr ⟨(p, tex.raw), tex, by simp [Transition.loadEvent, Except.map], hk,
            by simp [Transition.loadCreations, Step.loadsFile, hc]⟩
  · -- any other step
    refine hs.snoc rfl hsound hext ?_ (.inl ⟨hkeep hl, by simp [Transition.loadCreations, hl]⟩) hdata
    intro e he'
    rw [loadEvent_of_not_loadsFile hl] at he'
    cases he'

-- The built renderer: the placeholder's file, when there is one, is the index's one entry.
theorem loadsSound_build (hb : build cfg = .ok r₀) : LoadsSound cfg r₀ { renderer := r₀ } [] := by
  have hsound := build_texturesSound hb
  obtain ⟨r₁, t, rfl, hcases⟩ := build_eq_ok hb
  rcases hcases with ⟨p, hp, hl⟩ | ⟨hnot, img, hi⟩
  · have hfile : cfg.placeholderFile? = some p := by simp [Config.placeholderFile?, hp]
    have hmem := (texturesSound_fresh cfg).loadTexture_mem hl
    -- the fresh renderer has an empty index, so the load created the placeholder's texture
    have hloaded : r₁.resources.loaded = #[(Fingerprint.ofPath p, t)] ∧
        r₁.device.stats.textures = 1 := by
      rcases loadTexture_index hl with ⟨hk, -⟩ | ⟨t', ht, hk, hc⟩
      · rw [hk] at hmem
        simp [fresh, Resources.empty] at hmem
      · cases ht
        exact ⟨hk, hc⟩
    refine ⟨hsound, ?_, ?_, ?_, ?_⟩
    · intro e he
      simp only [loads, hfile, Option.map_some, Option.toList_some, List.filterMap_nil,
        List.append_nil, List.mem_singleton] at he
      subst he
      exact ⟨t, rfl, hmem⟩
    · intro f t' hm
      simp only [hloaded.1, Array.mem_singleton, Prod.mk.injEq] at hm
      exact ⟨(p, t.raw), by simp [loads, hfile], hm.1.symm⟩
    · simp [placeholderCreations, hfile, hloaded]
    · intro t' ht'
      cases ht'
  · have hfile : cfg.placeholderFile? = none := by
      unfold Config.placeholderFile?
      split
      · rename_i p hp
        exact absurd hp (hnot p)
      · rfl
    have hloaded : r₁.resources.loaded = #[] := (insertTexture_keeps hi).2.1
    refine ⟨hsound, ?_, ?_, ?_, ?_⟩
    · simp [loads, hfile]
    · intro f t' hm
      simp [hloaded] at hm
    · simp [placeholderCreations, hfile, hloaded]
    · intro t' ht'
      cases ht'

theorem Run.loadsSound {s : State} (hb : build cfg = .ok r₀) (hr : Run { renderer := r₀ } s ts) :
    LoadsSound cfg r₀ s ts := by
  induction hr with
  | nil => exact loadsSound_build hb
  | snoc _ hbefore he ih => exact ih.step hbefore he

section Consequences

variable {s : State}

-- Two loads answered the same texture exactly when their files have the same fingerprint.
theorem LoadsSound.same_texture_iff (hs : LoadsSound cfg r₀ s ts) {e₁ e₂ : Path × Nat}
    (h₁ : e₁ ∈ loads cfg r₀ ts) (h₂ : e₂ ∈ loads cfg r₀ ts) :
    e₁.2 = e₂.2 ↔ Fingerprint.ofPath e₁.1 = Fingerprint.ofPath e₂.1 := by
  obtain ⟨t₁, hraw₁, hmem₁⟩ := hs.indexed e₁ h₁
  obtain ⟨t₂, hraw₂, hmem₂⟩ := hs.indexed e₂ h₂
  constructor
  · -- one texture has one record, and so one fingerprint
    intro heq
    have ht : t₁ = t₂ := Handle.ext_raw (by rw [hraw₁, hraw₂, heq])
    subst ht
    obtain ⟨-, rec₁, hrec₁, hf₁⟩ := (hs.textures.index.mem_loaded _ _).mp hmem₁
    obtain ⟨-, rec₂, hrec₂, hf₂⟩ := (hs.textures.index.mem_loaded _ _).mp hmem₂
    rw [hrec₁] at hrec₂
    cases hrec₂
    rw [← hf₁, hf₂]
  · -- one fingerprint has one entry in the index
    intro heq
    rw [heq] at hmem₁
    rw [← hraw₁, ← hraw₂, hs.textures.index.eq_of_mem hmem₁ hmem₂]

-- Loading a file whose fingerprint a load answered before gives that load's texture, and
-- leaves the renderer as it was: nothing is decoded and the device is not asked.
theorem LoadsSound.reload (hs : LoadsSound cfg r₀ s ts) {e : Path × Nat}
    (he : e ∈ loads cfg r₀ ts) {p : Path} (hp : Fingerprint.ofPath p = Fingerprint.ofPath e.1) :
    ∃ t : Handle .texture, t.raw = e.2 ∧ s.renderer.loadTexture p = .ok (s.renderer, .ok t) := by
  obtain ⟨t, hraw, hmem⟩ := hs.indexed e he
  rw [← hp] at hmem
  obtain ⟨hnone, -⟩ := (hs.textures.index.mem_loaded _ _).mp hmem
  exact ⟨t, hraw, loadTexture_of_cached hnone (hs.textures.index.cached?_eq_some_iff.mpr hmem)⟩

-- The distinct fingerprints loaded are the keys of the index, each once.
theorem LoadsSound.card_fingerprints (hs : LoadsSound cfg r₀ s ts) :
    ((loads cfg r₀ ts).map (Fingerprint.ofPath ·.1)).toFinset.card =
      s.renderer.resources.loaded.size := by
  have hkeys : ((loads cfg r₀ ts).map (Fingerprint.ofPath ·.1)).toFinset =
      (s.renderer.resources.loaded.toList.map Prod.fst).toFinset := by
    ext f
    simp only [List.mem_toFinset, List.mem_map, Array.mem_toList_iff]
    constructor
    · rintro ⟨e, he, rfl⟩
      obtain ⟨t, -, hmem⟩ := hs.indexed e he
      exact ⟨_, hmem, rfl⟩
    · rintro ⟨⟨f', t⟩, hmem, rfl⟩
      exact hs.onlyLoads f' t hmem
  rw [hkeys, List.toFinset_card_of_nodup hs.textures.index.keys_nodup]
  simp

end Consequences

-- Loading textures along any session on a built renderer: two loads answer the same texture
-- exactly when their files have the same fingerprint, a reload does no work, and the textures the
-- loads created are as many as the distinct fingerprints loaded.
theorem loads_deduplicated {cfg : Config} {r₀ : Renderer} {s : State} {ts : List Transition}
    (hb : build cfg = .ok r₀) (hr : Run { renderer := r₀ } s ts) :
    (∀ e₁ ∈ loads cfg r₀ ts, ∀ e₂ ∈ loads cfg r₀ ts,
      e₁.2 = e₂.2 ↔ Fingerprint.ofPath e₁.1 = Fingerprint.ofPath e₂.1) ∧
    (∀ e ∈ loads cfg r₀ ts, ∀ p : Path, Fingerprint.ofPath p = Fingerprint.ofPath e.1 →
      ∃ t : Handle .texture, t.raw = e.2 ∧ s.renderer.loadTexture p = .ok (s.renderer, .ok t)) ∧
    placeholderCreations cfg r₀ + (ts.map Transition.loadCreations).sum =
      ((loads cfg r₀ ts).map (Fingerprint.ofPath ·.1)).toFinset.card ∧
    (∀ t ∈ ts, ∀ n, t.dataEvent = some n → n = t.before.renderer.resources.textures.size ∧
      ∃ rec, s.renderer.resources.textures.entries[n]? = some rec ∧
        rec.fingerprint = .none) ∧
    (∀ f t, (f, t) ∈ s.renderer.resources.loaded ↔ f.isNone = false ∧
      ∃ rec, s.renderer.resources.textures.entries[t.raw]? = some rec ∧ rec.fingerprint = f) := by
  have hs := hr.loadsSound hb
  refine ⟨fun e₁ h₁ e₂ h₂ => hs.same_texture_iff h₁ h₂, fun e he p hp => hs.reload he hp, ?_,
    hs.data, hs.textures.index.mem_loaded⟩
  rw [hs.card_fingerprints, hs.created]

-- A session on a generated placeholder that makes one data texture.
theorem loads_deduplicated_data_texture :
    ∃ (r₀ : Renderer) (s : State) (ts : List Transition),
      build { placeholder := .solid ⟨0, 0, 0, 255⟩ } = .ok r₀ ∧ Run { renderer := r₀ } s ts ∧
      ts.length = 1 ∧
      (∀ e₁ ∈ loads { placeholder := .solid ⟨0, 0, 0, 255⟩ } r₀ ts,
        ∀ e₂ ∈ loads { placeholder := .solid ⟨0, 0, 0, 255⟩ } r₀ ts,
        e₁.2 = e₂.2 ↔ Fingerprint.ofPath e₁.1 = Fingerprint.ofPath e₂.1) ∧
      (∀ e ∈ loads { placeholder := .solid ⟨0, 0, 0, 255⟩ } r₀ ts, ∀ p : Path,
        Fingerprint.ofPath p = Fingerprint.ofPath e.1 →
        ∃ t : Handle .texture, t.raw = e.2 ∧ s.renderer.loadTexture p = .ok (s.renderer, .ok t)) ∧
      placeholderCreations { placeholder := .solid ⟨0, 0, 0, 255⟩ } r₀ +
          (ts.map Transition.loadCreations).sum =
        ((loads { placeholder := .solid ⟨0, 0, 0, 255⟩ } r₀ ts).map
          (Fingerprint.ofPath ·.1)).toFinset.card ∧
      (∀ t ∈ ts, ∀ n, t.dataEvent = some n → n = t.before.renderer.resources.textures.size ∧
        ∃ rec, s.renderer.resources.textures.entries[n]? = some rec ∧
          rec.fingerprint = .none) ∧
      (∀ f t, (f, t) ∈ s.renderer.resources.loaded ↔ f.isNone = false ∧
        ∃ rec, s.renderer.resources.textures.entries[t.raw]? = some rec ∧
          rec.fingerprint = f) := by
  obtain ⟨r₀, s, ts, hb, hr, hlen⟩ : ∃ (r₀ : Renderer) (s : State) (ts : List Transition),
      build { placeholder := .solid ⟨0, 0, 0, 255⟩ } = .ok r₀ ∧ Run { renderer := r₀ } s ts ∧
      ts.length = 1 :=
    ⟨_, _, _, rfl, .snoc (t := ⟨_, .createDataTexture
        { name := "white", width := 1, height := 1, data := ⟨#[255, 255, 255, 255]⟩ }, _, _⟩)
      .nil rfl rfl, rfl⟩
  exact ⟨r₀, s, ts, hb, hr, hlen, loads_deduplicated hb hr⟩

end Session

end GpuFrontend
