import Mathlib.Data.List.Infix

/-!
# `Utility::getUEvent`

`getUEvent(uevent, d_name)` reads the `uevent` file of a DRM card,
`/sys/class/drm/<d_name>/device/uevent`, with one `read` into a buffer of 1024 bytes. From
the text before the first NUL it takes the four characters after the first `PCI_ID=8086:`
(the PCI device id of an Intel device) and the twelve after the first `PCI_SLOT_NAME=` (the
PCI address). It returns `false` when the name is null, when the file cannot be opened or
read, when it holds 1024 bytes or more, or when a key is missing. It sets `pciId` as soon as
it finds the first key, before it looks for the second.

`find` is `std::string::find`, by recursion on the text.

* `find_append`, `find_eq_none` — `find` gives the first occurrence of the key, and `npos`
  when there is none;
* `getUEvent_reads_fields` — **the round trip**: on a text holding a device id after its
  first `PCI_ID=8086:` and a slot name after its first `PCI_SLOT_NAME=`, in either order,
  `getUEvent` returns `true` with the two back;
* `getUEvent_false_changes_only_pciId` — a failed call never changes `bdf`; on a text with a
  device id and no slot name it fails having already overwritten `pciId` with the device id.
-/

namespace XpuSmi

namespace Utility

/-- `UEvent`, by the fields `getUEvent` sets. -/
structure UEvent where
  pciId : String
  bdf : String
  deriving DecidableEq, Repr

/-- `std::string::find(key)`: the index of the first occurrence of `key` in `s`; `none` for
`npos`. -/
def find (key s : List Char) : Option Nat :=
  if key.isPrefixOf s then some 0
  else
    match s with
    | [] => none
    | _ :: s => (find key s).map (· + 1)

/-- `PATH_MAX` of Linux's `limits.h`. -/
def pathMax : Nat := 4096

/-- The path `snprintf(path, PATH_MAX, "/sys/class/drm/%s/device/uevent", d_name)` writes, cut
to `PATH_MAX - 1` characters. -/
def ueventPath (dName : String) : String :=
  ("/sys/class/drm/" ++ dName ++ "/device/uevent").take (pathMax - 1)

/-- The key before the device id. -/
def pciIdKey : String := "PCI_ID=8086:"

/-- The key before the slot name. -/
def pciSlotNameKey : String := "PCI_SLOT_NAME="

/-- `Utility::getUEvent(uevent, d_name)`, with `dName` `none` for a null `d_name`. `files`
gives what `open` and `read` yield for a path: `none` when either fails, else the file's
bytes, of which `read(fd, buf, 1024)` takes the first 1024. `std::string str(buf)` stops at
the first NUL, and `substr(pos, n)` takes up to `n` characters from `pos`. -/
def getUEvent (files : String → Option (List Char)) (uevent : UEvent) (dName : Option String) :
    Bool × UEvent :=
  match dName with
  | none => (false, uevent)
  | some name =>
    match files (ueventPath name) with
    | none => (false, uevent)
    | some bytes =>
      let buf := bytes.take 1024
      if buf.length ≥ 1024 then (false, uevent)
      else
        let str := buf.takeWhile (· ≠ Char.ofNat 0)
        match find pciIdKey.data str with
        | none => (false, uevent)
        | some pos =>
          let uevent := { uevent with pciId := ⟨(str.drop (pos + pciIdKey.length)).take 4⟩ }
          match find pciSlotNameKey.data str with
          | none => (false, uevent)
          | some pos =>
            (true, { uevent with bdf := ⟨(str.drop (pos + pciSlotNameKey.length)).take 12⟩ })

/-! ## `find` -/

/-- **The first occurrence.** When `key` does not occur in `pre` or across its end before the
copy of `key` that follows it, `find` returns the index of that copy. -/
theorem find_append {key pre : List Char} (post : List Char) (hkey : key ≠ [])
    (h : ¬key <:+: pre ++ key.dropLast) : find key (pre ++ key ++ post) = some pre.length := by
  induction pre with
  | nil =>
    rw [List.nil_append, find.eq_def,
      if_pos (List.isPrefixOf_iff_prefix.mpr (List.prefix_append _ _))]
    rfl
  | cons c pre ih =>
    have hnot : ¬(key.isPrefixOf (c :: pre ++ key ++ post)) := by
      rw [List.isPrefixOf_iff_prefix]
      intro hp
      refine h (List.IsPrefix.isInfix (List.prefix_of_prefix_length_le hp ?_ ?_))
      · rw [List.append_assoc]
        exact (List.prefix_append_right_inj (c :: pre)).mpr
          ((List.dropLast_prefix key).trans (List.prefix_append _ _))
      · have : key.dropLast.length + 1 = key.length := by
          rw [List.length_dropLast]
          exact Nat.succ_pred_eq_of_pos (List.length_pos.mpr hkey)
        simp only [List.length_append, List.length_cons]
        omega
    rw [find.eq_def, if_neg hnot, List.cons_append, List.cons_append]
    dsimp only
    rw [ih fun hi => h (List.infix_cons hi)]
    rfl

/-- **No occurrence.** `find` returns `npos` on a text the key does not occur in. -/
theorem find_eq_none {key s : List Char} (h : ¬key <:+: s) : find key s = none := by
  induction s with
  | nil =>
    rw [find.eq_def, if_neg fun hp => h (List.isPrefixOf_iff_prefix.mp hp).isInfix]
  | cons c s ih =>
    rw [find.eq_def, if_neg fun hp => h (List.isPrefixOf_iff_prefix.mp hp).isInfix]
    dsimp only
    rw [ih fun hi => h (List.infix_cons hi)]
    rfl

/-- `find` on a text split at the first occurrence of the key. -/
theorem find_of_split {text pre key post : String} (htext : text = pre ++ key ++ post)
    (hkey : key.data ≠ []) (hfirst : ¬key.data <:+: pre.data ++ key.data.dropLast) :
    find key.data text.data = some pre.length := by
  subst htext
  exact find_append post.data hkey hfirst

/-- `substr(pos + key.length(), n)` on a text split at `pos`, the start of the key, takes the
`n` characters after the key. -/
theorem substr_after_key {text pre key field post : String}
    (htext : text = pre ++ key ++ field ++ post) :
    ((text.data.drop (pre.length + key.length)).take field.length) = field.data := by
  subst htext
  rw [show (pre ++ key ++ field ++ post).data = (pre.data ++ key.data) ++ (field.data ++ post.data)
      by simp,
    @List.drop_left' _ (pre.data ++ key.data) _ (pre.length + key.length)
      (List.length_append _ _)]
  exact List.take_left' rfl

/-- A text under 1024 bytes with no NUL is read whole: `buf` is the text, and so is `str`. -/
theorem readText {text : String} (hsize : text.length < 1024)
    (hnul : Char.ofNat 0 ∉ text.data) :
    (text.data.take 1024).length < 1024 ∧
      (text.data.take 1024).takeWhile (· ≠ Char.ofNat 0) = text.data := by
  have hlen : text.data.length < 1024 := hsize
  rw [List.take_of_length_le hlen.le, List.takeWhile_eq_self_iff]
  exact ⟨hlen, fun c hc => decide_eq_true fun h => hnul (h ▸ hc)⟩

/-! ## The round trip -/

/-- **The round trip.** On a text under 1024 bytes with no NUL, holding a device id of four
characters after its first `PCI_ID=8086:` and a slot name of twelve after its first
`PCI_SLOT_NAME=`, in either order, `getUEvent` returns `true` with the two. -/
theorem getUEvent_reads_fields (files : String → Option (List Char)) (uevent : UEvent)
    (name : String) {text preId id postId preSlot slot postSlot : String}
    (hfile : files (ueventPath name) = some text.data) (hsize : text.length < 1024)
    (hnul : Char.ofNat 0 ∉ text.data)
    (hidText : text = preId ++ pciIdKey ++ id ++ postId) (hid : id.length = 4)
    (hfirstId : ¬pciIdKey.data <:+: preId.data ++ pciIdKey.data.dropLast)
    (hslotText : text = preSlot ++ pciSlotNameKey ++ slot ++ postSlot) (hslot : slot.length = 12)
    (hfirstSlot : ¬pciSlotNameKey.data <:+: preSlot.data ++ pciSlotNameKey.data.dropLast) :
    getUEvent files uevent (some name) = (true, { pciId := id, bdf := slot }) := by
  obtain ⟨hlen, hstr⟩ := readText hsize hnul
  have hId := @find_of_split text preId pciIdKey (id ++ postId)
    (by rw [hidText, String.append_assoc]) (by decide) hfirstId
  have hSlot := @find_of_split text preSlot pciSlotNameKey (slot ++ postSlot)
    (by rw [hslotText, String.append_assoc]) (by decide) hfirstSlot
  simp only [getUEvent, hfile, if_neg (Nat.not_le.mpr hlen), hstr, hId, hSlot, Prod.mk.injEq,
    UEvent.mk.injEq, true_and]
  rw [← hid, ← hslot]
  exact ⟨String.ext (substr_after_key hidText), String.ext (substr_after_key hslotText)⟩

/-- The `uevent` of a card at slot `0000:03:00.0` with device id `56A0`, the slot name
written first. -/
def cardText : String :=
  "DRIVER=i915\n" ++ pciSlotNameKey ++ "0000:03:00.0" ++ "\n" ++ pciIdKey ++ "56A0" ++
    "\nMODALIAS=pci:v00008086d000056A0\n"

set_option maxRecDepth 4000 in
theorem getUEvent_reads_fields_card :
    ((fun _ => some cardText.data : String → Option (List Char)) (ueventPath "card0") =
        some cardText.data ∧
      cardText.length < 1024 ∧ Char.ofNat 0 ∉ cardText.data ∧
      cardText = ("DRIVER=i915\n" ++ pciSlotNameKey ++ "0000:03:00.0" ++ "\n") ++ pciIdKey ++
        "56A0" ++ "\nMODALIAS=pci:v00008086d000056A0\n" ∧
      "56A0".length = 4 ∧
      ¬pciIdKey.data <:+: ("DRIVER=i915\n" ++ pciSlotNameKey ++ "0000:03:00.0" ++ "\n").data ++
        pciIdKey.data.dropLast ∧
      cardText = "DRIVER=i915\n" ++ pciSlotNameKey ++ "0000:03:00.0" ++
        ("\n" ++ pciIdKey ++ "56A0" ++ "\nMODALIAS=pci:v00008086d000056A0\n") ∧
      "0000:03:00.0".length = 12 ∧
      ¬pciSlotNameKey.data <:+: "DRIVER=i915\n".data ++ pciSlotNameKey.data.dropLast) ∧
    getUEvent (fun _ => some cardText.data) ⟨"", ""⟩ (some "card0") =
      (true, { pciId := "56A0", bdf := "0000:03:00.0" }) :=
  ⟨⟨rfl, by decide, by decide, by decide, rfl, by decide, by decide, rfl, by decide⟩,
    @getUEvent_reads_fields (fun _ => some cardText.data) ⟨"", ""⟩ "card0" cardText
      ("DRIVER=i915\n" ++ pciSlotNameKey ++ "0000:03:00.0" ++ "\n") "56A0"
      "\nMODALIAS=pci:v00008086d000056A0\n" "DRIVER=i915\n" "0000:03:00.0"
      ("\n" ++ pciIdKey ++ "56A0" ++ "\nMODALIAS=pci:v00008086d000056A0\n") rfl (by decide)
      (by decide) (by decide) rfl (by decide) (by decide) rfl (by decide)⟩

/-! ## Failures -/

/-- **A failed call changes only `pciId`.** When `getUEvent` returns `false`, `bdf` is as it
was. On a text under 1024 bytes with no NUL and no `PCI_SLOT_NAME=`, the call returns
`false`: with `uevent` untouched when the text has no `PCI_ID=8086:` either, and otherwise
having overwritten `pciId` with the four characters after the first `PCI_ID=8086:`. -/
theorem getUEvent_false_changes_only_pciId (files : String → Option (List Char))
    (uevent : UEvent) :
    (∀ dName, (getUEvent files uevent dName).1 = false →
      (getUEvent files uevent dName).2.bdf = uevent.bdf) ∧
    (∀ name (text : String), files (ueventPath name) = some text.data → text.length < 1024 →
      Char.ofNat 0 ∉ text.data → ¬pciSlotNameKey.data <:+: text.data →
      (¬pciIdKey.data <:+: text.data → getUEvent files uevent (some name) = (false, uevent)) ∧
      ∀ pre id post : String, text = pre ++ pciIdKey ++ id ++ post → id.length = 4 →
        ¬pciIdKey.data <:+: pre.data ++ pciIdKey.data.dropLast →
        getUEvent files uevent (some name) = (false, { uevent with pciId := id })) := by
  refine ⟨fun dName h => ?_, fun name text hfile hsize hnul hslot => ⟨fun hnoId => ?_,
    fun pre id post hidText hid hfirstId => ?_⟩⟩
  · suffices hc : (getUEvent files uevent dName).1 = true ∨
        (getUEvent files uevent dName).2.bdf = uevent.bdf from
      hc.resolve_left (by rw [h]; exact Bool.false_ne_true)
    -- every exit but the last returns `uevent`, with at most `pciId` changed
    unfold getUEvent
    repeat' (first | split | dsimp only)
    all_goals first | exact .inr rfl | exact .inl rfl
  · obtain ⟨hlen, hstr⟩ := readText hsize hnul
    simp only [getUEvent, hfile, if_neg (Nat.not_le.mpr hlen), hstr, find_eq_none hnoId]
  · obtain ⟨hlen, hstr⟩ := readText hsize hnul
    have hId := @find_of_split text pre pciIdKey (id ++ post)
      (by rw [hidText, String.append_assoc]) (by decide) hfirstId
    simp only [getUEvent, hfile, if_neg (Nat.not_le.mpr hlen), hstr, hId, find_eq_none hslot,
      Prod.mk.injEq, UEvent.mk.injEq, true_and, and_true]
    rw [← hid]
    exact String.ext (substr_after_key hidText)

/-- A `uevent` with a device id and no slot name: the call fails, having set `pciId` to the
device id. -/
theorem getUEvent_false_changes_only_pciId_no_slot :
    (fun _ => some ("PCI_ID=8086:56A0\n").data : String → Option (List Char))
        (ueventPath "card0") = some ("" ++ pciIdKey ++ "56A0" ++ "\n").data ∧
      ("" ++ pciIdKey ++ "56A0" ++ "\n").length < 1024 ∧
      Char.ofNat 0 ∉ ("" ++ pciIdKey ++ "56A0" ++ "\n").data ∧
      ¬pciSlotNameKey.data <:+: ("" ++ pciIdKey ++ "56A0" ++ "\n").data ∧
      "56A0".length = 4 ∧ ¬pciIdKey.data <:+: "".data ++ pciIdKey.data.dropLast ∧
      getUEvent (fun _ => some ("PCI_ID=8086:56A0\n").data) ⟨"", "0000:03:00.0"⟩
          (some "card0") =
        (false, { (⟨"", "0000:03:00.0"⟩ : UEvent) with pciId := "56A0" }) :=
  ⟨rfl, by decide, by decide, by decide, rfl, by decide,
    ((getUEvent_false_changes_only_pciId (fun _ => some ("PCI_ID=8086:56A0\n").data)
      ⟨"", "0000:03:00.0"⟩).2 "card0" ("" ++ pciIdKey ++ "56A0" ++ "\n") rfl (by decide)
      (by decide) (by decide)).2 "" "56A0" "\n" rfl rfl (by decide)⟩

end Utility

end XpuSmi
