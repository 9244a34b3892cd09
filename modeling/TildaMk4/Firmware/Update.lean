import TildaMk4.Firmware.Frames

/-!
# The update of the CC3120

`CC3120_doUpdate` as the commands that it sends. Its three loops send an image in
chunks; each keeps the offset, the rest and the size of the chunk in `uint32_t`.
-/

namespace TildaMk4.Firmware

open Memory

/-- An array of the firmware with its length. -/
structure Image where
  len : UInt32
  bytes : Nat → UInt8

/-- `&image[offset]`. -/
def Image.from_ (image : Image) (offset : UInt32) : Nat → UInt8 :=
  fun i => image.bytes (offset.toNat + i)

/-- `offset` and `len` of one round. -/
structure Chunk where
  offset : UInt32
  len : UInt32
  deriving DecidableEq

/-- The size of the next chunk. -/
def chunkLen (limit remain : UInt32) : UInt32 := if remain < limit then remain else limit

theorem chunkLen_toNat (limit remain : UInt32) :
    (chunkLen limit remain).toNat = min remain.toNat limit.toNat := by
  rw [chunkLen]
  split
  next less =>
    have := UInt32.lt_iff_toNat_lt.mp less
    omega
  next enough =>
    have := UInt32.le_iff_toNat_le.mp (UInt32.not_lt.mp enough)
    omega

theorem remain_toNat (limit remain : UInt32) :
    (remain - chunkLen limit remain).toNat = remain.toNat - min remain.toNat limit.toNat := by
  rw [UInt32.toNat_sub_of_le, chunkLen_toNat]
  rw [UInt32.le_iff_toNat_le, chunkLen_toNat]
  exact Nat.min_le_left ..

/-- The loop `while (remain > 0)`, for any limit that lets it advance. -/
def chunks (limit : UInt32) (advances : 0 < limit) (total remain : UInt32) : List Chunk :=
  if _some : 0 < remain then
    ⟨total - remain, chunkLen limit remain⟩ ::
      chunks limit advances total (remain - chunkLen limit remain)
  else []
termination_by remain.toNat
decreasing_by
  have left := UInt32.lt_iff_toNat_lt.mp _some
  have step := UInt32.lt_iff_toNat_lt.mp advances
  rw [remain_toNat]
  simp only [UInt32.toNat_zero] at left step
  omega

/-- The second and third statement of the loops for the raw storage. -/
def writeRaw (id : UInt32) (target : UInt32 → UInt32) (image : Image) (c : Chunk) : List Command :=
  [.rawStorageWrite id (target c.offset) c.len (image.from_ c.offset), .getStatus]

/-- Load Bootloader Patches to SRAM. -/
def sramLoop (ram : Image) : List Command :=
  (chunks 4080 (by decide) ram.len ram.len).flatMap (writeRaw 0 (fun offset => offset) ram)

/-- Offset block 33 and 8 bytes. -/
def sflashTarget (offset : UInt32) : UInt32 := (33 * 4096 + 8) + offset

/-- Load Bootloader Patches to SFLASH. -/
def sflashLoop (sflash : Image) : List Command :=
  (chunks 4080 (by decide) sflash.len sflash.len).flatMap (writeRaw 2 sflashTarget sflash)

/-- Load Programming Image; the key is `NULL`, and none of it is used. -/
def fsProgramLoop (key : Nat → UInt8) (ucf : Image) : List Command :=
  (chunks 4096 (by decide) ucf.len ucf.len).map fun c =>
    .fsProgram 0 c.len.toUInt16 0 key (ucf.from_ c.offset)

/-- `CC3120_doUpdate`, from the first command on. -/
def doUpdate (key : Nat → UInt8) (ram sflash ucf : Image) : List Command :=
  [.getStorageList, .getVersionInfo, .getStorageInfo 0, .getStorageInfo 2,
    .rawStorageErase 0 0 3, .getStatus] ++ sramLoop ram ++
  [.getVersionInfo, .execFromRam, .getVersionInfo, .getStorageInfo 2,
    .rawStorageErase 2 33 2, .getStatus] ++ sflashLoop sflash ++
  [.getVersionInfo] ++ fsProgramLoop key ucf

section Loop

variable {limit total remain : UInt32} {advances : 0 < limit}

/-- One round of the loop. -/
theorem chunks_of_pos (some_ : 0 < remain) :
    chunks limit advances total remain = ⟨total - remain, chunkLen limit remain⟩ ::
      chunks limit advances total (remain - chunkLen limit remain) := by
  rw [chunks, dif_pos some_]

theorem chunks_of_not_pos (none_ : ¬0 < remain) : chunks limit advances total remain = [] := by
  rw [chunks, dif_neg none_]

/-- The induction over the rounds of the loop. -/
theorem chunks_induction (limit total : UInt32) (advances : 0 < limit)
    (P : UInt32 → List Chunk → Prop)
    (ends : ∀ remain, remain = 0 → P remain [])
    (round : ∀ remain, 0 < remain →
      P (remain - chunkLen limit remain)
        (chunks limit advances total (remain - chunkLen limit remain)) →
      P remain (⟨total - remain, chunkLen limit remain⟩ ::
        chunks limit advances total (remain - chunkLen limit remain))) (remain : UInt32) :
    P remain (chunks limit advances total remain) := by
  induction remain using chunks.induct limit advances with
  | case1 remain some_ inductionHypothesis =>
    rw [chunks_of_pos some_]
    exact round remain some_ inductionHypothesis
  | case2 remain none_ =>
    rw [chunks_of_not_pos none_]
    apply ends
    have zero := UInt32.le_iff_toNat_le.mp (UInt32.not_lt.mp none_)
    exact UInt32.toNat_inj.mp (Nat.le_zero.mp zero)

/-- The part of the image that a chunk covers. -/
def Chunk.range (c : Chunk) : Nat × Nat := (c.offset.toNat, c.len.toNat)

/-- Stretches of a 32-bit address space, each from where the one before it ends. -/
def Follows : UInt32 → List (UInt32 × UInt32) → Prop
  | _, [] => True
  | start, (at_, len) :: rest => at_ = start ∧ Follows (start + len) rest

theorem chunks_tile (limit : UInt32) (advances : 0 < limit) (within : remain ≤ total) :
    Tiles (total - remain).toNat total.toNat
      ((chunks limit advances total remain).map Chunk.range) := by
  have step := UInt32.lt_iff_toNat_lt.mp advances
  simp only [UInt32.toNat_zero] at step
  revert within
  refine chunks_induction limit total advances
    (fun remain sent => remain ≤ total →
      Tiles (total - remain).toNat total.toNat (sent.map Chunk.range)) ?_ ?_ remain
  · rintro _ rfl _
    simp [Tiles]
  · intro remain some_ inductionHypothesis within
    have left := UInt32.lt_iff_toNat_lt.mp some_
    have inside := UInt32.le_iff_toNat_le.mp within
    have less : remain - chunkLen limit remain ≤ total := by
      rw [UInt32.le_iff_toNat_le, remain_toNat]
      omega
    have next : (total - (remain - chunkLen limit remain)).toNat =
        (total - remain).toNat + (chunkLen limit remain).toNat := by
      rw [chunkLen_toNat, UInt32.toNat_sub_of_le _ _ within, UInt32.toNat_sub_of_le _ _ less,
        remain_toNat]
      omega
    have later := inductionHypothesis less
    rw [next] at later
    simp only [UInt32.toNat_zero] at left
    rw [List.map_cons]
    refine ⟨rfl, ?_, later⟩
    change 0 < (chunkLen limit remain).toNat
    rw [chunkLen_toNat]
    omega

/-- Only the last chunk may be short. -/
theorem chunks_full (c : Chunk) (member : c ∈ (chunks limit advances total remain).dropLast) :
    c.len = limit := by
  revert member
  refine chunks_induction limit total advances
    (fun _ sent => c ∈ sent.dropLast → c.len = limit) ?_ ?_ remain
  · exact fun _ _ member => absurd member List.not_mem_nil
  · intro remain _ inductionHypothesis member
    rcases Decidable.em (0 < remain - chunkLen limit remain) with more | done
    · rw [chunks_of_pos more, List.dropLast_cons_cons, ← chunks_of_pos more] at member
      rcases List.mem_cons.mp member with rfl | later
      · have enough : ¬remain < limit := by
          intro less
          rw [chunkLen, if_pos less, UInt32.sub_self] at more
          exact absurd more (UInt32.lt_irrefl 0)
        exact if_neg enough
      · exact inductionHypothesis later
    · rw [chunks_of_not_pos done] at member
      exact absurd member List.not_mem_nil

theorem chunks_len (c : Chunk) (member : c ∈ chunks limit advances total remain) :
    c.len.toNat ≤ limit.toNat := by
  revert member
  refine chunks_induction limit total advances
    (fun _ sent => c ∈ sent → c.len.toNat ≤ limit.toNat) ?_ ?_ remain
  · exact fun _ _ member => absurd member List.not_mem_nil
  · intro remain _ inductionHypothesis member
    rcases List.mem_cons.mp member with rfl | later
    · rw [chunkLen_toNat]
      exact Nat.min_le_right ..
    · exact inductionHypothesis later

theorem chunks_follow (limit : UInt32) (advances : 0 < limit) (total remain base : UInt32) :
    Follows (base + (total - remain))
      ((chunks limit advances total remain).map fun c => (base + c.offset, c.len)) := by
  refine chunks_induction limit total advances
    (fun remain sent => Follows (base + (total - remain))
      (sent.map fun c => (base + c.offset, c.len))) ?_ ?_ remain
  · exact fun _ _ => trivial
  · intro remain _ inductionHypothesis
    have next : base + (total - remain) + chunkLen limit remain =
        base + (total - (remain - chunkLen limit remain)) := by
      grind
    refine ⟨rfl, ?_⟩
    rw [next]
    exact inductionHypothesis

end Loop

/-- What has to be true of the chunks in which an image is sent. -/
structure Delivers (limit : Nat) (image : Image) (sent : List Chunk) : Prop where
  tiles : Tiles 0 image.len.toNat (sent.map Chunk.range)
  bounded : ∀ c ∈ sent, 0 < c.len.toNat ∧ c.len.toNat ≤ limit
  full : ∀ c ∈ sent.dropLast, c.len.toNat = limit
  inside : ∀ c ∈ sent, c.offset.toNat + c.len.toNat ≤ image.len.toNat
  whole : sent.flatMap (fun c => loadBytes (image.from_ c.offset) 0 c.len.toNat) =
    loadBytes image.bytes 0 image.len.toNat

theorem Image.load_from_ (image : Image) (offset : UInt32) (len : Nat) :
    loadBytes (image.from_ offset) 0 len = loadBytes image.bytes offset.toNat len := by
  simp [loadBytes, Image.from_]

theorem chunks_deliver (limit : UInt32) (advances : 0 < limit) (image : Image) :
    Delivers limit.toNat image (chunks limit advances image.len image.len) := by
  have tiles : Tiles 0 image.len.toNat
      ((chunks limit advances image.len image.len).map Chunk.range) := by
    simpa using chunks_tile limit advances (UInt32.le_refl image.len)
  have ranges (c : Chunk) (member : c ∈ chunks limit advances image.len image.len) :=
    tiles.inside c.range (List.mem_map_of_mem member)
  refine ⟨tiles, ?_, ?_, ?_, ?_⟩
  · exact fun c member => ⟨(ranges c member).2.1, chunks_len c member⟩
  · exact fun c member => congrArg UInt32.toNat (chunks_full c member)
  · exact fun c member => (ranges c member).2.2
  · have loaded := tiles.loadBytes image.bytes
    rw [List.flatMap_map] at loaded
    simp only [Image.load_from_]
    exact loaded

theorem fits_uint16 {len : UInt32} (fits : len.toNat ≤ 4096) :
    len.toUInt16.toNat = len.toNat := by
  rw [UInt32.toNat_toUInt16]
  omega

/-- No command of the update asks for more than its limits. -/
theorem doUpdate_withinLimits (key : Nat → UInt8) (ram sflash ucf : Image) :
    ∀ command ∈ doUpdate key ram sflash ucf, command.WithinLimits := by
  have raw (id : UInt32) (target : UInt32 → UInt32) (image : Image) :
      ∀ command ∈ (chunks 4080 (by decide) image.len image.len).flatMap (writeRaw id target image),
        command.WithinLimits := by
    intro command member
    obtain ⟨c, sent, either⟩ := List.mem_flatMap.mp member
    simp only [writeRaw, List.mem_cons, List.not_mem_nil, or_false] at either
    rcases either with rfl | rfl
    · exact chunks_len c sent
    · trivial
  have program : ∀ command ∈ fsProgramLoop key ucf, command.WithinLimits := by
    intro command member
    obtain ⟨c, sent, rfl⟩ := List.mem_map.mp member
    have limit : c.len.toNat ≤ 4096 := chunks_len c sent
    exact ⟨Nat.zero_le _, by rw [fits_uint16 limit]; exact limit⟩
  intro command member
  simp only [doUpdate, List.mem_append] at member
  rcases member with ((((first | sram) | second) | sflash) | third) | last
  · simp only [List.mem_cons, List.not_mem_nil, or_false] at first
    rcases first with rfl | rfl | rfl | rfl | rfl | rfl <;> trivial
  · exact raw 0 _ ram command sram
  · simp only [List.mem_cons, List.not_mem_nil, or_false] at second
    rcases second with rfl | rfl | rfl | rfl | rfl | rfl <;> trivial
  · exact raw 2 _ _ command sflash
  · rw [List.mem_singleton.mp third]
    trivial
  · exact program command last

end TildaMk4.Firmware
