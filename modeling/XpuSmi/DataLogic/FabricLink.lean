import XpuSmi.DataLogic.Query

/-!
# `getFabricLinkInfo`

`getFabricLinkInfo(deviceId, info, count)` lists the fabric links of a device: for each attach
id of `getFabricThroughputIDS()`, each remote fabric id under it and each remote attach id
under that, one `FabricLinkInfo` (tile, remote device, remote tile). Called with
`info == nullptr` it only counts the links; called with a buffer it also stores them, with no
check against a capacity, and returns `false` at the first remote fabric id the device
manager does not know. It writes `*count` only when it returns `true`.

The three nested loops visit the keys in map order: `fabricLinkKeys` lists the triples they
visit, and `linkInfoLoop` runs the body of the innermost loop over them.

* `linkInfoLoop_null`, `linkInfoLoop_data`, `linkInfoLoop_data_fails` — the loop counts every
  triple, and with a buffer stores one link per triple until a remote fabric id is unknown;
* `getFabricLinkInfo_sizing_fits` — **the two calls agree**: the sizing call reports the
  number N of triples, in a `uint32_t`; the data call stores exactly their N links, in map
  order, and reports N when every remote fabric id is known, and otherwise stores fewer than
  N links and leaves `*count` as it was. When N < 2^32, a buffer sized by the first call is
  never overrun by the second; with 2^32 triples the count wraps to 0.
-/

namespace XpuSmi

/-- `FabricLinkInfo`, by the fields `getFabricLinkInfo` sets. -/
structure FabricLinkInfo where
  tileId : Nat
  remoteDeviceId : Int
  remoteTileId : Nat
  deriving DecidableEq, Repr

/-- The map `getFabricThroughputIDS()` returns: attach id, then remote fabric id, then remote
attach id. What it holds under a remote attach id is not read. -/
abbrev FabricThroughputIDs (ι : Type) := StdMap Nat (StdMap Nat (StdMap Nat ι))

/-- What `getFabricLinkInfo` leaves its caller: its return value, `*count`, and the links it
stored in `info`, in the order of the writes; the `k`-th write goes to `info[k % 2^32]`, the
`uint32_t index` wrapping. -/
structure LinkInfoResult where
  result : Bool
  count : UInt32
  links : List FabricLinkInfo := []
  deriving DecidableEq, Repr

namespace DataLogic

variable {ι : Type}

/-- The (attach id, remote fabric id, remote attach id) triples the three loops of
`getFabricLinkInfo` visit, in order. -/
def fabricLinkKeys (ids : FabricThroughputIDs ι) : List (Nat × Nat × Nat) :=
  ids.entries.flatMap fun attach =>
    attach.2.entries.flatMap fun remoteFabric =>
      remoteFabric.2.entries.map fun remoteAttach => (attach.1, remoteFabric.1, remoteAttach.1)

/-- The link of a triple, when the device manager knows its remote fabric id. -/
def linkOf (core : Core) (key : Nat × Nat × Nat) : Option FabricLinkInfo :=
  (core.getDeviceIDByFabricID key.2.1).map fun did => ⟨key.1, did, key.2.2⟩

/-- The body of the innermost loop run over the triples, with `index` the triples visited and
`links` the entries of `info` stored so far: with `info == nullptr` only `++index`; with a
buffer `info[index] = link`, or `return false` when the device manager does not know the
remote fabric id. The result: whether the loops ran to their end, the final `index`, and the
links stored. -/
def linkInfoLoop (core : Core) (infoNull : Bool) :
    List (Nat × Nat × Nat) → Nat → List FabricLinkInfo → Bool × Nat × List FabricLinkInfo
  | [], index, links => (true, index, links)
  | key :: keys, index, links =>
    if infoNull then linkInfoLoop core infoNull keys (index + 1) links
    else
      match linkOf core key with
      | none => (false, index, links)
      | some link => linkInfoLoop core infoNull keys (index + 1) (links ++ [link])

/-- `DataLogic::getFabricLinkInfo`. `getFabricThroughputIDS` is the device's
`getFabricThroughputIDS()`, `infoNull` is `info == nullptr`, and `count` is the caller's
`*count`, which the call overwrites with its `uint32_t index` only when it returns `true`. -/
def getFabricLinkInfo (core : Core) (getFabricThroughputIDS : Device → FabricThroughputIDs ι)
    (deviceId : Int) (infoNull : Bool) (count : UInt32) : LinkInfoResult :=
  match core.getDevice (toString deviceId) with
  | none => { result := false, count }
  | some dev =>
    match linkInfoLoop core infoNull (fabricLinkKeys (getFabricThroughputIDS dev)) 0 [] with
    | (true, index, links) => { result := true, count := UInt32.ofNat index, links }
    | (false, _, links) => { result := false, count, links }

/-! ## The loop -/

/-- Without a buffer the loop visits every triple and stores nothing. -/
theorem linkInfoLoop_null (core : Core) (keys : List (Nat × Nat × Nat)) (index : Nat)
    (links : List FabricLinkInfo) :
    linkInfoLoop core true keys index links = (true, index + keys.length, links) := by
  induction keys generalizing index with
  | nil => rfl
  | cons key keys ih =>
    rw [linkInfoLoop, if_pos rfl, ih, List.length_cons, Nat.add_right_comm, Nat.add_assoc]

/-- With a buffer and every remote fabric id known, the loop stores one link per triple. -/
theorem linkInfoLoop_data (core : Core) {keys : List (Nat × Nat × Nat)}
    {ls : List FabricLinkInfo} (h : keys.mapM (linkOf core) = some ls) (index : Nat)
    (links : List FabricLinkInfo) :
    linkInfoLoop core false keys index links = (true, index + keys.length, links ++ ls) := by
  induction keys generalizing index links ls with
  | nil =>
    simp only [List.mapM_nil, Option.pure_def, Option.some.injEq] at h
    simp [linkInfoLoop, ← h]
  | cons key keys ih =>
    simp only [List.mapM_cons, Option.bind_eq_bind, Option.bind_eq_some, Option.pure_def,
      Option.some.injEq] at h
    obtain ⟨link, hkey, ls', hkeys, rfl⟩ := h
    rw [linkInfoLoop, if_neg Bool.false_ne_true]
    simp only [hkey, ih hkeys, List.length_cons, List.append_assoc, List.singleton_append]
    rw [Nat.add_right_comm, Nat.add_assoc]

/-- With a buffer and some remote fabric id unknown, the loop returns `false` having stored
fewer links than there are triples. -/
theorem linkInfoLoop_data_fails (core : Core) {keys : List (Nat × Nat × Nat)}
    (h : keys.mapM (linkOf core) = none) (index : Nat) (links : List FabricLinkInfo) :
    (linkInfoLoop core false keys index links).1 = false ∧
      (linkInfoLoop core false keys index links).2.2.length < links.length + keys.length := by
  induction keys generalizing index links with
  | nil => rw [List.mapM_nil] at h; cases h
  | cons key keys ih =>
    rw [linkInfoLoop, if_neg Bool.false_ne_true]
    cases hkey : linkOf core key with
    | none => simp
    | some link =>
      have hkeys : keys.mapM (linkOf core) = none := by
        cases hk : keys.mapM (linkOf core) with
        | none => rfl
        | some ls => rw [List.mapM_cons, hkey, hk] at h; cases h
      obtain ⟨hres, hlen⟩ := ih hkeys (index + 1) (links ++ [link])
      refine ⟨hres, ?_⟩
      simp only [List.length_append, List.length_singleton, List.length_cons,
        List.length_nil] at hlen ⊢
      omega

/-- The loop stores at most one link per triple. -/
theorem linkInfoLoop_length_le (core : Core) (infoNull : Bool) (keys : List (Nat × Nat × Nat))
    (index : Nat) (links : List FabricLinkInfo) :
    (linkInfoLoop core infoNull keys index links).2.2.length ≤ links.length + keys.length := by
  induction keys generalizing index links with
  | nil => simp [linkInfoLoop]
  | cons key keys ih =>
    rw [linkInfoLoop]
    split
    · exact (ih _ _).trans (by simp)
    · split
      · simp
      · refine (ih _ _).trans ?_
        simp only [List.length_append, List.length_singleton, List.length_cons,
          List.length_nil]
        omega

/-- On an existing device the links of a call are the ones its loop stored. -/
theorem getFabricLinkInfo_links {core : Core}
    {getFabricThroughputIDS : Device → FabricThroughputIDs ι} {deviceId : Int} {dev : Device}
    (hdev : core.getDevice (toString deviceId) = some dev) (infoNull : Bool) (count : UInt32) :
    (getFabricLinkInfo core getFabricThroughputIDS deviceId infoNull count).links =
      (linkInfoLoop core infoNull (fabricLinkKeys (getFabricThroughputIDS dev)) 0 []).2.2 := by
  simp only [getFabricLinkInfo, hdev]
  split <;> simp_all

/-! ## The two calls -/

/-- **The two calls agree.** On an existing device, the sizing call returns `true` with
`*count` the number of (attach, remote fabric, remote attach) triples, in a `uint32_t`. When
the device manager knows every remote fabric id, the data call returns `true`, stores one link
per triple in map order, and reports the same count. Otherwise it returns `false`, leaves
`*count` as it was, and has stored fewer links than there are triples. Either way, when there
are fewer than 2^32 triples, the data call stores no more links than the sizing call reported:
a buffer of that size is never overrun. -/
theorem getFabricLinkInfo_sizing_fits (core : Core)
    (getFabricThroughputIDS : Device → FabricThroughputIDs ι) (deviceId : Int) {dev : Device}
    (hdev : core.getDevice (toString deviceId) = some dev) (count : UInt32) :
    getFabricLinkInfo core getFabricThroughputIDS deviceId true count =
        { result := true,
          count := UInt32.ofNat (fabricLinkKeys (getFabricThroughputIDS dev)).length } ∧
      (∀ links, (fabricLinkKeys (getFabricThroughputIDS dev)).mapM (linkOf core) = some links →
        getFabricLinkInfo core getFabricThroughputIDS deviceId false count =
          { result := true,
            count := UInt32.ofNat (fabricLinkKeys (getFabricThroughputIDS dev)).length,
            links }) ∧
      ((fabricLinkKeys (getFabricThroughputIDS dev)).mapM (linkOf core) = none →
        (getFabricLinkInfo core getFabricThroughputIDS deviceId false count).result = false ∧
        (getFabricLinkInfo core getFabricThroughputIDS deviceId false count).count = count ∧
        (getFabricLinkInfo core getFabricThroughputIDS deviceId false count).links.length <
          (fabricLinkKeys (getFabricThroughputIDS dev)).length) ∧
      ((fabricLinkKeys (getFabricThroughputIDS dev)).length < 2 ^ 32 →
        ∀ count',
          (getFabricLinkInfo core getFabricThroughputIDS deviceId false count').links.length ≤
            (getFabricLinkInfo core getFabricThroughputIDS deviceId true count).count.toNat) := by
  have hsizing : getFabricLinkInfo core getFabricThroughputIDS deviceId true count =
      { result := true,
        count := UInt32.ofNat (fabricLinkKeys (getFabricThroughputIDS dev)).length } := by
    simp [getFabricLinkInfo, hdev, linkInfoLoop_null]
  refine ⟨hsizing, fun links h => ?_, fun h => ?_, fun hfew count' => ?_⟩
  · simp [getFabricLinkInfo, hdev, linkInfoLoop_data core h]
  · obtain ⟨hres, hlen⟩ := linkInfoLoop_data_fails core h 0 []
    simp only [getFabricLinkInfo, hdev]
    generalize linkInfoLoop core false (fabricLinkKeys (getFabricThroughputIDS dev)) 0 [] = r
      at hres hlen
    obtain ⟨b, index, links⟩ := r
    dsimp only at hres hlen
    subst hres
    simpa using hlen
  · -- the sizing count does not wrap, and the loop stores at most one link per triple
    rw [hsizing, getFabricLinkInfo_links hdev]
    show _ ≤ (UInt32.ofNat (fabricLinkKeys (getFabricThroughputIDS dev)).length).toNat
    rw [uint32_toNat_ofNat, Nat.mod_eq_of_lt hfew]
    exact (linkInfoLoop_length_le core false _ 0 []).trans_eq (Nat.zero_add _)

/-- A device whose one link runs from tile 0 to tile 1 of the device behind remote fabric
id 5. -/
def oneLinkCore : Core :=
  { getDevice := fun _ => some {},
    getDeviceIDByFabricID := fun f => if f = 5 then some 1 else none }

/-- The fabric ids of `oneLinkCore`'s device. -/
def oneLinkIDs : FabricThroughputIDs Unit :=
  ⟨[(0, ⟨[(5, ⟨[(1, ())], List.pairwise_singleton _ _⟩)], List.pairwise_singleton _ _⟩)],
    List.pairwise_singleton _ _⟩

theorem getFabricLinkInfo_sizing_fits_one_link :
    oneLinkCore.getDevice (toString (0 : Int)) = some {} ∧
      (getFabricLinkInfo oneLinkCore (fun _ => oneLinkIDs) 0 true 7 =
          { result := true, count := UInt32.ofNat (fabricLinkKeys oneLinkIDs).length } ∧
        (∀ links, (fabricLinkKeys oneLinkIDs).mapM (linkOf oneLinkCore) = some links →
          getFabricLinkInfo oneLinkCore (fun _ => oneLinkIDs) 0 false 7 =
            { result := true, count := UInt32.ofNat (fabricLinkKeys oneLinkIDs).length, links }) ∧
        ((fabricLinkKeys oneLinkIDs).mapM (linkOf oneLinkCore) = none →
          (getFabricLinkInfo oneLinkCore (fun _ => oneLinkIDs) 0 false 7).result = false ∧
          (getFabricLinkInfo oneLinkCore (fun _ => oneLinkIDs) 0 false 7).count = 7 ∧
          (getFabricLinkInfo oneLinkCore (fun _ => oneLinkIDs) 0 false 7).links.length <
            (fabricLinkKeys oneLinkIDs).length) ∧
        ((fabricLinkKeys oneLinkIDs).length < 2 ^ 32 →
          ∀ count',
            (getFabricLinkInfo oneLinkCore (fun _ => oneLinkIDs) 0 false count').links.length ≤
              (getFabricLinkInfo oneLinkCore (fun _ => oneLinkIDs) 0 true 7).count.toNat)) :=
  ⟨rfl, getFabricLinkInfo_sizing_fits oneLinkCore (fun _ => oneLinkIDs) 0 rfl 7⟩

end DataLogic

end XpuSmi
