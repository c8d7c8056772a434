import Ork3.Model.KittyGraphics

/-!
# The cache and the host terminal

What the cache records is what the commands sent so far have left on the host.
-/

namespace Ork3.Graphics

open Ork3.Library Ork3.Layout

/-! ### Agreement -/

/-- What a recorded image and one on the host have in common. -/
structure ImageShape where
  formatCode : UInt32
  width : UInt32
  height : UInt32
  dataLen : Nat

def ImageSignature.shape (s : ImageSignature) : ImageShape :=
  ⟨s.formatCode, s.imageWidth, s.imageHeight, s.dataLen⟩

def HostImage.shape (image : HostImage) : ImageShape :=
  ⟨image.formatCode, image.width, image.height, image.data.length⟩

def PlacementSignature.shown (s : PlacementSignature) : ClippedPlacement × Int32 :=
  (s.clipped, s.z)

/-- The host has exactly the images and the placements that the cache records. -/
structure Synced (cache : HostGraphicsCache) (host : KittyHost) : Prop where
  images : ∀ id, (host.images id).map HostImage.shape =
    (cache.images.lookup id).map ImageSignature.shape
  placements : ∀ key, host.placements key =
    (cache.placements.lookup key).map PlacementSignature.shown
  backed : ∀ key, (cache.placements.lookup key).isSome → (cache.images.lookup key.1).isSome

section
variable {cache cache' : HostGraphicsCache} {host : KittyHost}

lemma Synced.congr (h : Synced cache host)
    (himages : ∀ id, cache'.images.lookup id = cache.images.lookup id)
    (hplacements : ∀ key, cache'.placements.lookup key = cache.placements.lookup key) :
    Synced cache' host where
  images id := by rw [h.images, himages]
  placements key := by rw [h.placements, hplacements]
  backed key := by
    rw [hplacements, himages]
    exact h.backed key

lemma Synced.isSome_images (h : Synced cache host) (id : UInt32) :
    (host.images id).isSome = (cache.images.lookup id).isSome := by
  rw [← Option.isSome_map, h.images, Option.isSome_map]

/-! ### Deletions -/

lemma lookup_withoutPlacementsOf (cache : HostGraphicsCache) (hostId : UInt32)
    (key : UInt32 × UInt32) :
    (cache.withoutPlacementsOf hostId).placements.lookup key =
      if key.1 = hostId then none else cache.placements.lookup key := by
  change (cache.placements.retain _).lookup key = _
  rw [Table.lookup_retain]
  by_cases hkey : key.1 = hostId
  · rw [if_pos hkey]
    cases cache.placements.lookup key <;> simp [Option.filter, hkey]
  · rw [if_neg hkey]
    cases cache.placements.lookup key <;> simp [Option.filter, hkey]

lemma lookup_erase_eq {κ υ : Type*} [DecidableEq κ] (t : Table κ υ) (k k' : κ) :
    (t.erase k).lookup k' = if k' = k then none else t.lookup k' := by
  by_cases hk : k' = k
  · rw [if_pos hk, hk, AList.lookup_erase]
  · rw [if_neg hk, AList.lookup_erase_ne hk]

lemma lookup_images_withoutImage (cache : HostGraphicsCache) (hostId id : UInt32) :
    (cache.withoutImage hostId).images.lookup id =
      if id = hostId then none else cache.images.lookup id :=
  lookup_erase_eq cache.images hostId id

lemma lookup_placements_withoutImage (cache : HostGraphicsCache) (hostId : UInt32)
    (key : UInt32 × UInt32) :
    (cache.withoutImage hostId).placements.lookup key =
      if key.1 = hostId then none else cache.placements.lookup key :=
  lookup_withoutPlacementsOf cache hostId key

lemma Synced.deleteImage (h : Synced cache host) (id : UInt32) :
    Synced (cache.withoutImage id) (host.exec (.deleteImage id)) where
  images id' := by
    rw [lookup_images_withoutImage]
    change (Function.update host.images id none id').map _ = _
    by_cases hid : id' = id
    · rw [hid, Function.update_self, if_pos rfl]
      rfl
    · rw [Function.update_of_ne hid, if_neg hid, h.images]
  placements key := by
    rw [lookup_placements_withoutImage]
    change (if key.1 = id then none else host.placements key) = _
    by_cases hkey : key.1 = id
    · rw [if_pos hkey, if_pos hkey, Option.map_none]
    · rw [if_neg hkey, if_neg hkey, h.placements]
  backed key := by
    rw [lookup_placements_withoutImage, lookup_images_withoutImage]
    by_cases hkey : key.1 = id
    · rw [if_pos hkey, if_pos hkey]
      exact nofun
    · rw [if_neg hkey, if_neg hkey]
      exact h.backed key

lemma Synced.deletePlacement (h : Synced cache host) (key : UInt32 × UInt32) :
    Synced { cache with placements := cache.placements.erase key }
      (host.exec (.deletePlacement key.1 key.2)) where
  images := h.images
  placements key' := by
    change Function.update host.placements key none key' = ((cache.placements.erase key).lookup
      key').map _
    rw [lookup_erase_eq]
    by_cases hkey : key' = key
    · rw [hkey, Function.update_self, if_pos rfl, Option.map_none]
    · rw [Function.update_of_ne hkey, if_neg hkey, h.placements]
  backed key' := by
    change ((cache.placements.erase key).lookup key').isSome → _
    rw [lookup_erase_eq]
    by_cases hkey : key' = key
    · rw [if_pos hkey]
      exact nofun
    · rw [if_neg hkey]
      exact h.backed key'

/-! ### Uploads and placements -/

/-- An upload of an image that the host does not have. -/
lemma Synced.transmit (h : Synced cache host) {id : UInt32} (hnew : cache.images.lookup id = none)
    (signature : ImageSignature) {data : List UInt8} (hlen : signature.dataLen = data.length) :
    Synced { cache with images := cache.images.insert id signature }
      (host.exec (.transmit id signature.formatCode signature.imageWidth signature.imageHeight
        data)) where
  images id' := by
    change (Function.update (host.withoutImage id).images id _ id').map _ =
      ((cache.images.insert id signature).lookup id').map _
    rw [Table.lookup_insert_eq]
    by_cases hid : id' = id
    · rw [hid, Function.update_self, if_pos rfl, Option.map_some, Option.map_some]
      simp only [HostImage.shape, ImageSignature.shape, hlen]
    · rw [Function.update_of_ne hid, if_neg hid]
      change (Function.update host.images id none id').map _ = _
      rw [Function.update_of_ne hid, h.images]
  placements key := by
    change (if key.1 = id then none else host.placements key) = _
    by_cases hkey : key.1 = id
    · rw [if_pos hkey]
      have hnone : cache.placements.lookup key = none := by
        by_contra hsome
        have hbacked := h.backed key (Option.isSome_iff_ne_none.mpr hsome)
        rw [hkey, hnew] at hbacked
        cases hbacked
      rw [hnone, Option.map_none]
    · rw [if_neg hkey, h.placements]
  backed key hkey := by
    change ((cache.images.insert id signature).lookup key.1).isSome
    rw [Table.lookup_insert_eq]
    split
    · rfl
    · exact h.backed key hkey

lemma Synced.display (h : Synced cache host) {id : UInt32}
    (hid : (cache.images.lookup id).isSome) (placementId : UInt32)
    (signature : PlacementSignature) :
    Synced { cache with placements := cache.placements.insert (id, placementId) signature }
      (host.exec (.display id placementId signature.clipped signature.z)) := by
  have hexec : host.exec (.display id placementId signature.clipped signature.z) =
      { host with
        placements := Function.update host.placements (id, placementId)
          (some signature.shown) } := by
    rw [KittyHost.exec, if_pos ((h.isSome_images id).trans hid)]
    rfl
  rw [hexec]
  constructor
  case images => exact h.images
  case placements =>
    intro key
    change Function.update host.placements (id, placementId) _ key =
      ((cache.placements.insert (id, placementId) signature).lookup key).map _
    rw [Table.lookup_insert_eq]
    by_cases hkey : key = (id, placementId)
    · rw [hkey, Function.update_self, if_pos rfl, Option.map_some]
    · rw [Function.update_of_ne hkey, if_neg hkey, h.placements]
  case backed =>
    intro key
    change ((cache.placements.insert (id, placementId) signature).lookup key).isSome → _
    rw [Table.lookup_insert_eq]
    by_cases hkey : key = (id, placementId)
    · rw [hkey]
      intro _
      exact hid
    · rw [if_neg hkey]
      exact h.backed key

end

/-! ### Updates -/

lemma execAll_append (host : KittyHost) (commands more : List GraphicsCommand) :
    host.execAll (commands ++ more) = (host.execAll commands).execAll more :=
  List.foldl_append

/-- The host agrees with the cache once it has run the commands of the update so far. -/
def GraphicsUpdate.Agrees (u : GraphicsUpdate) (host : KittyHost) : Prop :=
  Synced u.cache (host.execAll u.commands)

section
variable {u : GraphicsUpdate} {host : KittyHost}

lemma GraphicsUpdate.Agrees.snoc {cache' : HostGraphicsCache} {command : GraphicsCommand}
    {currentPlacements : Finset (UInt32 × UInt32)}
    (h : Synced cache' ((host.execAll u.commands).exec command)) :
    (GraphicsUpdate.mk cache' currentPlacements (u.commands ++ [command])).Agrees host := by
  unfold GraphicsUpdate.Agrees
  rw [execAll_append]
  exact h

lemma GraphicsUpdate.Agrees.dropRemovedLayerImage (h : u.Agrees host) (hostId : UInt32) :
    (dropRemovedLayerImage u hostId).Agrees host := by
  unfold Graphics.dropRemovedLayerImage
  split
  · exact h
  · exact .snoc (Synced.deleteImage h hostId)

lemma agrees_pruneSources {cache : HostGraphicsCache} (h : Synced cache host)
    (placements : List HostPlacement) : (pruneSources cache placements).Agrees host := by
  have hstart (sources : Table HostSourceKey UInt32) :
      (GraphicsUpdate.mk { cache with sources := sources } ∅ []).Agrees host :=
    h.congr (fun _ => rfl) fun _ => rfl
  unfold pruneSources
  dsimp only
  specialize hstart (cache.sources.retain fun source _ => source ∈ currentSources placements)
  generalize GraphicsUpdate.mk _ ∅ [] = u at hstart ⊢
  generalize @List.dedup UInt32 _ _ = removed
  induction removed generalizing u with
  | nil => exact hstart
  | cons hostId removed ih => exact ih _ (hstart.dropRemovedLayerImage hostId)

/-- A placement whose host id another image has carries its data. -/
def CarriesData (hash : List UInt8 → UInt64) (u : GraphicsUpdate) (p : HostPlacement) : Prop :=
  (clippedPlacement p).isSome → ∀ existing,
    u.cache.images.lookup (hostImageId hash p.paneId p.placement) = some existing →
    existing ≠ imageSignature p → p.placement.data ≠ []

lemma dataLen_imageSignature {p : HostPlacement} (hdata : p.placement.data ≠ []) :
    (imageSignature p).dataLen = p.placement.data.length := by
  unfold KittyImagePlacement.data at hdata ⊢
  split
  · rfl
  · rename_i hnot
    rw [if_neg hnot] at hdata
    exact absurd rfl hdata

lemma clippedPlacement_formatCode {p : HostPlacement} {clipped : ClippedPlacement}
    {formatCode : UInt32} (h : clippedPlacement p = some (clipped, formatCode)) :
    formatCode = (imageSignature p).formatCode := by
  unfold clippedPlacement at h
  simp only [Option.ite_none_left_eq_some, Option.some.injEq, Prod.mk.injEq] at h
  exact h.2.2.2.2.2.2.symm

/-- An upload to a host id that is free. -/
lemma agrees_upload (h : u.Agrees host) {p : HostPlacement} {hostId : UInt32}
    (hnew : u.cache.images.lookup hostId = none) {command : GraphicsCommand}
    (hcommand : encodeUploadImage p (imageSignature p).formatCode hostId = some command) :
    (GraphicsUpdate.mk
      { u.cache with images := u.cache.images.insert hostId (imageSignature p) }
      u.currentPlacements (u.commands ++ [command])).Agrees host := by
  unfold encodeUploadImage at hcommand
  split at hcommand
  · cases hcommand
  · rename_i hdata
    cases hcommand
    have hne : p.placement.data ≠ [] := by simpa using hdata
    exact .snoc (Synced.transmit h hnew (imageSignature p) (dataLen_imageSignature hne))

/-- The host agrees after an upload, and after one that was skipped. -/
lemma agrees_ensureImage (hash : List UInt8 → UInt64) (h : u.Agrees host) {p : HostPlacement}
    {clipped : ClippedPlacement} {formatCode : UInt32}
    (hclipped : clippedPlacement p = some (clipped, formatCode)) (hcarries : CarriesData hash u p) :
    let r := ensureImage u p formatCode (hostImageId hash p.paneId p.placement)
    r.1.Agrees host ∧ (r.2 = true →
      r.1.cache.images.lookup (hostImageId hash p.paneId p.placement) =
        some (imageSignature p)) := by
  have hformat := clippedPlacement_formatCode hclipped
  unfold CarriesData at hcarries
  generalize hostImageId hash p.paneId p.placement = hostId at hcarries ⊢
  dsimp only
  unfold ensureImage
  cases hlookup : u.cache.images.lookup hostId with
  | none =>
    dsimp only
    rw [hformat]
    cases hcommand : encodeUploadImage p (imageSignature p).formatCode hostId with
    | none => exact ⟨h, nofun⟩
    | some command => exact ⟨agrees_upload h hlookup hcommand, fun _ => AList.lookup_insert _⟩
  | some existing =>
    dsimp only
    by_cases hsame : existing = imageSignature p
    · rw [if_pos hsame]
      exact ⟨h, fun _ => hsame ▸ hlookup⟩
    · rw [if_neg hsame]
      subst hformat
      have hdata := hcarries (by rw [hclipped, Option.isSome_some]) existing hlookup hsame
      have hcommand : encodeUploadImage p (imageSignature p).formatCode hostId =
          some (.transmit hostId (imageSignature p).formatCode p.placement.image.imageWidth
            p.placement.image.imageHeight p.placement.data) :=
        if_neg (by simpa using hdata)
      rw [hcommand]
      dsimp only
      have hcleared : (GraphicsUpdate.mk (u.cache.withoutImage hostId) u.currentPlacements
          (u.commands ++ [.deleteImage hostId])).Agrees host :=
        .snoc (Synced.deleteImage h hostId)
      have hupload := agrees_upload hcleared (lookup_images_withoutImage u.cache hostId hostId
        |>.trans (if_pos rfl)) hcommand
      refine ⟨Synced.congr hupload (fun id => ?_) fun _ => rfl, fun _ => AList.lookup_insert _⟩
      change (u.cache.images.insert hostId _).lookup id =
        ((u.cache.images.erase hostId).insert hostId _).lookup id
      rw [Table.lookup_insert_eq, Table.lookup_insert_eq, lookup_erase_eq]
      split <;> rfl

lemma agrees_releaseSuperseded (h : u.Agrees host) (source : HostSourceKey) (hostId : UInt32) :
    (releaseSupersededSourceImage u source hostId).Agrees host := by
  have hsources : Synced { u.cache with sources := u.cache.sources.insert source hostId }
      (host.execAll u.commands) := Synced.congr h (fun _ => rfl) fun _ => rfl
  unfold releaseSupersededSourceImage
  dsimp only
  split
  · exact hsources
  · split
    · exact hsources
    · exact .snoc (hsources.deleteImage _)

/-- The image a source now has is not the one that is released. -/
lemma lookup_images_releaseSuperseded (u : GraphicsUpdate) (source : HostSourceKey)
    (hostId : UInt32) :
    (releaseSupersededSourceImage u source hostId).cache.images.lookup hostId =
      u.cache.images.lookup hostId := by
  unfold releaseSupersededSourceImage
  dsimp only
  split
  · rfl
  · rename_i previous _
    split
    · rfl
    · rename_i hreleased
      rw [not_or] at hreleased
      dsimp only
      rw [lookup_images_withoutImage, if_neg (Ne.symm hreleased.1)]

lemma agrees_displayPlacement (h : u.Agrees host) (viewChanged : Bool) {hostId : UInt32}
    (hid : (u.cache.images.lookup hostId).isSome) (placementId : UInt32)
    (signature : PlacementSignature) :
    (displayPlacement u viewChanged signature.clipped hostId placementId signature).Agrees
      host := by
  unfold displayPlacement
  split
  · exact h
  · exact .snoc (Synced.display h hid placementId signature)

/-- One placement. -/
lemma agrees_encodePlacement (hash : List UInt8 → UInt64) (viewChanged : Bool)
    (h : u.Agrees host) {p : HostPlacement} (hcarries : CarriesData hash u p) :
    (encodePlacement hash viewChanged u p).Agrees host := by
  unfold encodePlacement
  cases hclipped : clippedPlacement p with
  | none => exact h
  | some r =>
    obtain ⟨clipped, formatCode⟩ := r
    dsimp only
    have hensured := agrees_ensureImage hash (u := { u with
      currentPlacements := insert (hostImageId hash p.paneId p.placement,
        hostPlacementId hash p.sourceKey p.placement) u.currentPlacements }) h hclipped hcarries
    generalize ensureImage _ p formatCode (hostImageId hash p.paneId p.placement) = result
      at hensured ⊢
    obtain ⟨v, uploaded⟩ := result
    obtain ⟨hagrees, himage⟩ := hensured
    cases uploaded with
    | false => exact hagrees
    | true =>
      refine agrees_displayPlacement (agrees_releaseSuperseded hagrees _ _) viewChanged ?_ _
        (placementSignature clipped p.placement.z p.scrollbackOffset)
      rw [lookup_images_releaseSuperseded, himage rfl, Option.isSome_some]

lemma agrees_deleteStale (h : u.Agrees host) (keys : List (UInt32 × UInt32)) :
    (keys.foldl deleteStalePlacement u).Agrees host := by
  induction keys generalizing u with
  | nil => exact h
  | cons key keys ih => exact ih (.snoc (Synced.deletePlacement h key))

end

/-! ### Runs -/

section
variable (hash : List UInt8 → UInt64)

/-- The update before the placement that follows `before` is reached. -/
def updateBefore (cache : HostGraphicsCache) (placements before : List HostPlacement)
    (viewChanged : Bool) : GraphicsUpdate :=
  before.foldl (encodePlacement hash viewChanged) (pruneSources cache placements)

/-- Whenever a placement is reached whose host id another image has, it carries its data. -/
def GraphicsCall.Carries (cache : HostGraphicsCache) : GraphicsCall → Prop
  | .update placements viewChanged => ∀ before p after, placements = before ++ p :: after →
    CarriesData hash (updateBefore hash cache placements before viewChanged) p
  | .clear => True

/-- The cache and the host after some calls, from an empty cache and an empty host. -/
def graphicsAfter (calls : List GraphicsCall) : HostGraphicsCache × KittyHost :=
  calls.foldl (fun s call => ((call.apply hash s.1).1, s.2.execAll (call.apply hash s.1).2))
    (.default, .empty)

variable {hash} {cache : HostGraphicsCache} {host : KittyHost}

lemma synced_encodeGraphicsUpdate (h : Synced cache host) (placements : List HostPlacement)
    (viewChanged : Bool)
    (hcarries : (GraphicsCall.update placements viewChanged).Carries hash cache) :
    Synced (encodeGraphicsUpdate hash placements viewChanged cache).1
      (host.execAll (encodeGraphicsUpdate hash placements viewChanged cache).2) := by
  have hsynced : ∀ before, before <+: placements →
      (updateBefore hash cache placements before viewChanged).Agrees host := by
    intro before hbefore
    induction before using List.reverseRecOn with
    | nil => exact agrees_pruneSources h placements
    | append_singleton before p ih =>
      obtain ⟨after, hafter⟩ := hbefore
      rw [List.append_assoc, List.singleton_append] at hafter
      have hagrees := ih ⟨p :: after, hafter⟩
      rw [updateBefore, List.foldl_append]
      exact agrees_encodePlacement hash viewChanged hagrees (hcarries before p after hafter.symm)
  exact agrees_deleteStale (hsynced placements List.prefix_rfl) _

lemma images_execAll_deleteImage (host : KittyHost) (ids : List UInt32) (id : UInt32) :
    (host.execAll (ids.map .deleteImage)).images id =
      if id ∈ ids then none else host.images id := by
  induction ids generalizing host with
  | nil => rfl
  | cons first ids ih =>
    refine (ih (host.withoutImage first)).trans ?_
    change (if id ∈ ids then none else Function.update host.images first none id) = _
    by_cases hid : id = first
    · rw [hid, Function.update_self, ite_self, if_pos List.mem_cons_self]
    · rw [Function.update_of_ne hid]
      exact if_congr (by rw [List.mem_cons, or_iff_right hid]) rfl rfl

lemma placements_execAll_deleteImage (host : KittyHost) (ids : List UInt32)
    (key : UInt32 × UInt32) :
    (host.execAll (ids.map .deleteImage)).placements key =
      if key.1 ∈ ids then none else host.placements key := by
  induction ids generalizing host with
  | nil => rfl
  | cons first ids ih =>
    refine (ih (host.withoutImage first)).trans ?_
    change (if key.1 ∈ ids then none else if key.1 = first then none else host.placements key) = _
    by_cases hid : key.1 = first
    · rw [if_pos hid, ite_self, hid, if_pos List.mem_cons_self]
    · rw [if_neg hid]
      exact if_congr (by rw [List.mem_cons, or_iff_right hid]) rfl rfl

lemma synced_clearBytes (h : Synced cache host) :
    Synced (clearBytes cache).1 (host.execAll (clearBytes cache).2) where
  images id := by
    have himages := h.images id
    rw [clearBytes, images_execAll_deleteImage]
    by_cases hid : id ∈ cache.images.keys
    · rw [if_pos hid]
      rfl
    · rw [if_neg hid, himages, AList.lookup_eq_none.mpr hid]
      rfl
  placements key := by
    rw [clearBytes, placements_execAll_deleteImage]
    by_cases hid : key.1 ∈ cache.images.keys
    · rw [if_pos hid]
      rfl
    · have hnone : cache.placements.lookup key = none := by
        by_contra hsome
        have hbacked := h.backed key (Option.isSome_iff_ne_none.mpr hsome)
        exact hid (AList.lookup_isSome.mp hbacked)
      rw [if_neg hid, h.placements, hnone]
      rfl
  backed _ := nofun

lemma synced_apply (h : Synced cache host) (call : GraphicsCall) (hcarries : call.Carries hash cache) :
    Synced (call.apply hash cache).1 (host.execAll (call.apply hash cache).2) := by
  cases call with
  | update placements viewChanged => exact synced_encodeGraphicsUpdate h placements viewChanged hcarries
  | clear => exact synced_clearBytes h

/-- In every run whose placements carry their data wherever another image has their host id, the
host has exactly what the cache records. -/
theorem host_has_what_cache_records (hash : List UInt8 → UInt64) (calls : List GraphicsCall)
    (hcarries : ∀ before call after, calls = before ++ call :: after →
      call.Carries hash (graphicsAfter hash before).1) :
    Synced (graphicsAfter hash calls).1 (graphicsAfter hash calls).2 := by
  induction calls using List.reverseRecOn with
  | nil => exact ⟨fun _ => rfl, fun _ => rfl, fun _ => nofun⟩
  | append_singleton calls call ih =>
    have hbefore := ih fun before call' after hcalls =>
      hcarries before call' (after ++ [call]) (by rw [hcalls, List.append_assoc, List.cons_append])
    rw [graphicsAfter, List.foldl_append]
    exact synced_apply hbefore call (hcarries calls call [] rfl)

end

/-! ### Two images with one host id -/

/-- A visible placement of a whole image of one pixel in the pane `1`. -/
def pixelPlacement (imageId : UInt32) (image : KittyImage) (dataIncluded : Bool) :
    HostPlacement where
  paneId := ⟨1⟩
  area := ⟨0, 0, 20, 10⟩
  cellSize := ⟨10, 10⟩
  sourceKey := .terminal ⟨1⟩ imageId
  placement :=
    { imageId := imageId
      placementId := 1
      z := 0
      xOffset := 0
      yOffset := 0
      image := image
      dataIncluded := dataIncluded
      render := ⟨0, 0, 3, 3, 0, 0, 0, 0, 0, 0⟩ }
  scrollbackOffset := 0

/-- Two pixels that are given the same host id, `597201`. -/
def darkPixel : KittyImage := ⟨1, 1, .rgb, [49, 5, 0], 294616885894174405⟩

def lightPixel : KittyImage := ⟨1, 1, .rgb, [95, 1, 0], 5370419224724043903⟩

/-- Placements that all carry their data may follow on anything. -/
lemma carries_of_data {hash : List UInt8 → UInt64} {placements : List HostPlacement}
    (h : ∀ p ∈ placements, p.placement.data ≠ []) (cache : HostGraphicsCache) (viewChanged : Bool) :
    (GraphicsCall.update placements viewChanged).Carries hash cache := by
  rintro before p after rfl - _ - -
  exact h p (by simp)

/-- A layer of the pane `1` that shows a blue pixel. -/
def pixelLayer : HostPlacement :=
  { pixelPlacement 1 ⟨1, 1, .rgb, [0, 0, 255], 10679664488188409545⟩ true with
    sourceKey := .paneLayer ⟨1⟩ }

/-- The layer is shown beside the dark pixel, then it goes and the light pixel replaces the dark one,
and last everything is cleared. -/
def pixelCalls : List GraphicsCall :=
  [.update [pixelLayer, pixelPlacement 1 darkPixel true] false,
    .update [pixelPlacement 1 lightPixel true] false, .clear]

theorem host_has_what_cache_records_darkPixel :
    [1, 2, 3].map (fun n => (graphicsAfter defaultHash (pixelCalls.take n)).1.images.entries.length) =
        [2, 1, 0] ∧
      ∀ n, Synced (graphicsAfter defaultHash (pixelCalls.take n)).1
        (graphicsAfter defaultHash (pixelCalls.take n)).2 := by
  have hdata : ∀ p ∈ [pixelLayer, pixelPlacement 1 darkPixel true, pixelPlacement 1 lightPixel true],
      p.placement.data ≠ [] := by
    simp [pixelLayer, pixelPlacement, KittyImagePlacement.data, darkPixel, lightPixel]
  have hcall : ∀ call ∈ pixelCalls, ∀ cache, call.Carries defaultHash cache := by
    intro call hcall cache
    simp only [pixelCalls, List.mem_cons, List.not_mem_nil, or_false] at hcall
    rcases hcall with rfl | rfl | rfl
    · exact carries_of_data (fun p hp => hdata p (List.mem_append_left [_] hp)) cache false
    · exact carries_of_data (fun p hp => hdata p (List.mem_append_right [_, _] hp)) cache false
    · trivial
  refine ⟨by decide +kernel, fun n => host_has_what_cache_records defaultHash _ ?_⟩
  intro before call after hcalls
  have hmem : call ∈ pixelCalls.take n := by
    rw [hcalls]
    simp
  exact hcall call (List.mem_of_mem_take hmem) _

/-- The image of the second placement is deleted for the first one, and its data was left out. -/
theorem recorded_image_missing :
    ¬ ∀ calls : List GraphicsCall,
      Synced (graphicsAfter defaultHash calls).1 (graphicsAfter defaultHash calls).2 := by
  intro h
  have himages := (h [.update [pixelPlacement 1 darkPixel true] false,
    .update [pixelPlacement 2 lightPixel true, pixelPlacement 1 darkPixel false] false]).images
    597201
  have hhost : ((graphicsAfter defaultHash [.update [pixelPlacement 1 darkPixel true] false,
    .update [pixelPlacement 2 lightPixel true, pixelPlacement 1 darkPixel false] false]).2.images
    597201).isSome = false := by decide +kernel
  have hcache : ((graphicsAfter defaultHash [.update [pixelPlacement 1 darkPixel true] false,
    .update [pixelPlacement 2 lightPixel true, pixelPlacement 1 darkPixel false] false]).1.images
    |>.lookup 597201).isSome = true := by decide +kernel
  rw [← Option.isSome_map (f := HostImage.shape), himages, Option.isSome_map, hcache] at hhost
  cases hhost

def bothTerminal : TerminalGraphics where
  images := (AList.singleton 1 darkPixel).insert 2 lightPixel
  placements :=
    [⟨2, 1, 0, 0, 0, (pixelPlacement 2 lightPixel true).placement.render⟩,
      ⟨1, 1, 0, 0, 0, (pixelPlacement 1 darkPixel false).placement.render⟩]
  offsetFromBottom := 0

/-- The pane `1` shows both images, the one that is new first. -/
def bothPixels : VisibleApp where
  hasActiveTab := true
  paneInfos := [⟨⟨1⟩, ⟨0, 0, 20, 10⟩⟩]
  paneGraphicsLayers := ∅
  runtimes := AList.singleton ⟨1⟩ bothTerminal

/-- The second call of the run is what the frame collects against the cache that the first one left. -/
example : collectVisiblePlacements defaultHash bothPixels ⟨10, 10⟩
    (graphicsAfter defaultHash [.update [pixelPlacement 1 darkPixel true] false]).1.images =
    [pixelPlacement 2 lightPixel true, pixelPlacement 1 darkPixel false] := by
  have hdark : hostImageIdForSignature defaultHash ⟨1⟩ darkPixel.signature = 597201 := by
    decide +kernel
  have hlight : hostImageIdForSignature defaultHash ⟨1⟩ lightPixel.signature = 597201 := by
    decide +kernel
  have hcached : (graphicsAfter defaultHash [.update [pixelPlacement 1 darkPixel true]
      false]).1.images.lookup 597201 = some darkPixel.signature := by
    decide +kernel
  have hdiffer : darkPixel.signature ≠ lightPixel.signature := by decide
  have himages : bothTerminal.images.lookup 2 = some lightPixel ∧
      bothTerminal.images.lookup 1 = some darkPixel := by
    decide
  have hruntime : bothPixels.runtimes.lookup ⟨1⟩ = some bothTerminal := rfl
  have hlayer : bothPixels.paneGraphicsLayers.lookup ⟨1⟩ = none := rfl
  generalize (graphicsAfter defaultHash _).1.images = uploaded at hcached
  change collectPanePlacements defaultHash bothPixels ⟨10, 10⟩ uploaded _ ++ [] = _
  simp only [collectPanePlacements, hruntime, hlayer]
  simp only [kittyImagePlacementsWithDataFilter, bothTerminal.eq_def] at himages ⊢
  have hneeded : uploaded.lookup (hostImageIdForSignature defaultHash ⟨1⟩ lightPixel.signature) ≠
      some lightPixel.signature := by
    rw [hlight, hcached]
    exact fun h => hdiffer (Option.some.inj h)
  have hhas : uploaded.lookup (hostImageIdForSignature defaultHash ⟨1⟩ darkPixel.signature) =
      some darkPixel.signature := by
    rw [hdark, hcached]
  simpa [himages, pixelPlacement] using And.intro hneeded hhas

end Ork3.Graphics
