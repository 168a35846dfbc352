import VirtualNvme.Driver.Context

/-!
# Storage backends

`storage.c`, `storage_memory.c` and `storage_file.c`. The memory backend hands out
addresses in its buffer; every range it lets through is recorded in `touched`. The file
backends go through the kernel, whose answers are part of `Os`.
-/

namespace VirtualNvme

/-- The range check of every backend: `Offset + Length > Context->TotalBytes`, in 64-bit
arithmetic. -/
def StorageContext.outOfRange (ctx : StorageContext) (offset : UInt64) (length : UInt32) :
    Bool :=
  offset + length.toUInt64 > ctx.totalBytes

/-- Record a range the memory backend has let through. -/
def StorageContext.touch (ctx : StorageContext) (offset : UInt64) (length : UInt32) :
    StorageContext :=
  { ctx with touched := ctx.touched ++ [(offset, length)] }

def StorageContext.countRead (ctx : StorageContext) (length : UInt32) : StorageContext :=
  { ctx with
    readCount := ctx.readCount + 1
    bytesRead := ctx.bytesRead + length.toUInt64 }

def StorageContext.countWrite (ctx : StorageContext) (length : UInt32) : StorageContext :=
  { ctx with
    writeCount := ctx.writeCount + 1
    bytesWritten := ctx.bytesWritten + length.toUInt64 }

/-- A backend with the kernel it calls. -/
abbrev Backing := StorageContext × Os

/-- The next chunk, `min(remaining, chunkSize)`. -/
def nextChunk (chunkSize remaining : UInt64) : UInt64 :=
  if remaining > chunkSize then chunkSize else remaining

/-- `while (remaining > 0)`: write zeroes chunk by chunk and stop at the first failure.
Every chunk has at least one byte, so a first argument above the number of bytes never
runs out. -/
def zeroChunks (chunkSize : UInt64) (write : Backing → UInt64 → UInt32 → NtStatus × Backing) :
    Nat → Backing → UInt64 → UInt64 → NtStatus × Backing
  | 0, b, _, _ => (.success, b)
  | fuel + 1, b, offset, remaining =>
    if remaining = 0 then (.success, b)
    else
      let chunk := nextChunk chunkSize remaining
      let r := write b offset chunk.toUInt32
      if r.1.ntSuccess then
        zeroChunks chunkSize write fuel r.2 (offset + chunk) (remaining - chunk)
      else r

/-! ## The memory backend -/

/-- `VNVME_MAX_MEMORY_BACKEND_SIZE` -/
def vnvmeMaxMemoryBackendSize : UInt64 := 256 * 1024 * 1024

/-- `StorageMemoryInit` -/
def storageMemoryInit (b : Backing) (totalBytes : UInt64) : NtStatus × Backing :=
  if totalBytes > vnvmeMaxMemoryBackendSize then (.insufficientResources, b)
  else
    let (ok, os) := b.2.call .allocatePool
    if ok then
      (.success,
        { b.1 with
          memoryBuffer := some fun _ => 0
          memorySize := totalBytes
          totalBytes := totalBytes
          type := .memory }, os)
    else (.insufficientResources, b.1, os)

/-- `StorageMemoryRead` -/
def storageMemoryRead (ctx : StorageContext) (offset : UInt64) (length : UInt32) :
    NtStatus × (UInt64 → UInt8) × StorageContext :=
  match ctx.memoryBuffer with
  | none => (.deviceNotReady, fun _ => 0, ctx)
  | some mem =>
    if ctx.outOfRange offset length then (.invalidParameter, fun _ => 0, ctx)
    else (.success, fun i => mem (offset + i), (ctx.touch offset length).countRead length)

/-- `StorageMemoryWrite` -/
def storageMemoryWrite (ctx : StorageContext) (offset : UInt64) (buffer : UInt64 → UInt8)
    (length : UInt32) : NtStatus × StorageContext :=
  match ctx.memoryBuffer with
  | none => (.deviceNotReady, ctx)
  | some mem =>
    if ctx.readOnly then (.mediaWriteProtected, ctx)
    else if ctx.outOfRange offset length then (.invalidParameter, ctx)
    else
      (.success,
        { (ctx.touch offset length).countWrite length with
          memoryBuffer := some (copyBytes mem offset buffer 0 length.toNat) })

/-- `StorageMemoryWriteZeroes` -/
def storageMemoryWriteZeroes (ctx : StorageContext) (offset : UInt64) (length : UInt32) :
    NtStatus × StorageContext :=
  storageMemoryWrite ctx offset (fun _ => 0) length

/-- `StorageMemoryGetDirect`; the pointer it returns is `MemoryBuffer + Offset`. -/
def storageMemoryGetDirect (ctx : StorageContext) (offset : UInt64) (length : UInt32) :
    NtStatus × StorageContext :=
  match ctx.memoryBuffer with
  | none => (.deviceNotReady, ctx)
  | some _ =>
    if ctx.outOfRange offset length then (.invalidParameter, ctx)
    else (.success, ctx.touch offset length)

/-! ## The file backends -/

/-- `StorageFileInit` with `CreateNew = TRUE`: a fresh file reads as zeroes. -/
def storageFileInit (b : Backing) (filePath : List UInt16) (totalBytes : UInt64) :
    NtStatus × Backing :=
  let (allocated, os) := b.2.call .allocatePool
  if !allocated then (.insufficientResources, b.1, os)
  else
    let (opened, os) := os.call .createFile
    if !opened then (.unsuccessful, b.1, os)
    else
      let (sized, os) := os.call .setInformationFile
      if !sized then (.unsuccessful, b.1, os)
      else
        (.success,
          { b.1 with
            filePath := filePath
            file := some fun _ => 0
            totalBytes := totalBytes
            type := .file }, os)

/-- `StorageSparseInit` with `CreateNew = TRUE` -/
def storageSparseInit (b : Backing) (filePath : List UInt16) (totalBytes : UInt64) :
    NtStatus × Backing :=
  let (allocated, os) := b.2.call .allocatePool
  if !allocated then (.insufficientResources, b.1, os)
  else
    let (opened, os) := os.call .createFile
    if !opened then (.unsuccessful, b.1, os)
    else
      -- a file system that cannot do sparse files is only a warning
      let (sparse, os) := os.call .fsControlFile
      let (sized, os) := os.call .setInformationFile
      if !sized then (.unsuccessful, b.1, os)
      else
        (.success,
          { b.1 with
            filePath := filePath
            file := some fun _ => 0
            isSparse := sparse
            totalBytes := totalBytes
            type := .sparse }, os)

/-- `StorageFileRead` -/
def storageFileRead (b : Backing) (offset : UInt64) (length : UInt32) :
    NtStatus × (UInt64 → UInt8) × Backing :=
  match b.1.file with
  | none => (.deviceNotReady, fun _ => 0, b)
  | some file =>
    if b.1.outOfRange offset length then (.invalidParameter, fun _ => 0, b)
    else
      let (ok, os) := b.2.call .readFile
      if ok then (.success, fun i => file (offset + i), b.1.countRead length, os)
      else (.unsuccessful, fun _ => 0, b.1, os)

/-- `StorageSparseRead` -/
def storageSparseRead (b : Backing) (offset : UInt64) (length : UInt32) :
    NtStatus × (UInt64 → UInt8) × Backing :=
  storageFileRead b offset length

/-- `StorageFileWrite` -/
def storageFileWrite (b : Backing) (offset : UInt64) (buffer : UInt64 → UInt8)
    (length : UInt32) : NtStatus × Backing :=
  match b.1.file with
  | none => (.deviceNotReady, b)
  | some file =>
    if b.1.readOnly then (.mediaWriteProtected, b)
    else if b.1.outOfRange offset length then (.invalidParameter, b)
    else
      let (ok, os) := b.2.call .writeFile
      if ok then
        (.success,
          { b.1.countWrite length with
            file := some (copyBytes file offset buffer 0 length.toNat) }, os)
      else (.unsuccessful, b.1, os)

/-- `StorageSparseWrite` -/
def storageSparseWrite (b : Backing) (offset : UInt64) (buffer : UInt64 → UInt8)
    (length : UInt32) : NtStatus × Backing :=
  storageFileWrite b offset buffer length

/-- `StorageFileFlush`: a failure to touch the time stamp is not reported. -/
def storageFileFlush (ctx : StorageContext) : NtStatus :=
  if ctx.file.isNone then .deviceNotReady else .success

/-- Write zeroes through a zeroed buffer of 64 KB. -/
def zeroThroughBuffer (b : Backing) (offset : UInt64) (length : UInt32) : NtStatus × Backing :=
  let (ok, os) := b.2.call .allocatePool
  if ok then
    zeroChunks (64 * 1024) (fun b off len => storageFileWrite b off (fun _ => 0) len)
      (length.toNat + 1) (b.1, os) offset length.toUInt64
  else (.insufficientResources, b.1, os)

/-- `StorageSparseWriteZeroes`: `FSCTL_SET_ZERO_DATA`, and real writes if that fails. -/
def storageSparseWriteZeroes (b : Backing) (offset : UInt64) (length : UInt32) :
    NtStatus × Backing :=
  match b.1.file with
  | none => (.deviceNotReady, b)
  | some file =>
    if b.1.readOnly then (.mediaWriteProtected, b)
    else if b.1.outOfRange offset length then (.invalidParameter, b)
    else
      let (ok, os) := b.2.call .fsControlFile
      if ok then
        (.success,
          { b.1.countWrite length with
            file := some (copyBytes file offset (fun _ => 0) 0 length.toNat) }, os)
      else zeroThroughBuffer (b.1, os) offset length

/-! ## The common interface -/

/-- `VnvmeStorageCreate` -/
def vnvmeStorageCreate (os : Os) (type : StorageType) (totalBytes : UInt64) (blockSize : UInt32)
    (filePath : Option (List UInt16)) : NtStatus × Option StorageContext × Os :=
  let (ok, os) := os.call .allocatePool
  if !ok then (.insufficientResources, none, os)
  else
    let b : Backing := ({ blockSize := blockSize }, os)
    let r :=
      match type, filePath with
      | .memory, _ => storageMemoryInit b totalBytes
      | .file, some path => storageFileInit b path totalBytes
      | .sparse, some path => storageSparseInit b path totalBytes
      | .file, none => (.invalidParameter, b)
      | .sparse, none => (.invalidParameter, b)
      | .none, _ => (.notSupported, b)
    (r.1, if r.1.ntSuccess then some r.2.1 else none, r.2.2)

/-- `VnvmeStorageRead` -/
def vnvmeStorageRead (b : Backing) (offset : UInt64) (length : UInt32) :
    NtStatus × (UInt64 → UInt8) × Backing :=
  match b.1.type with
  | .memory =>
    let r := storageMemoryRead b.1 offset length
    (r.1, r.2.1, r.2.2, b.2)
  | .file => storageFileRead b offset length
  | .sparse => storageSparseRead b offset length
  | .none => (.notSupported, fun _ => 0, b)

/-- `VnvmeStorageWrite` -/
def vnvmeStorageWrite (b : Backing) (offset : UInt64) (buffer : UInt64 → UInt8)
    (length : UInt32) : NtStatus × Backing :=
  match b.1.type with
  | .memory =>
    let r := storageMemoryWrite b.1 offset buffer length
    (r.1, r.2, b.2)
  | .file => storageFileWrite b offset buffer length
  | .sparse => storageSparseWrite b offset buffer length
  | .none => (.notSupported, b)

/-- `VnvmeStorageWriteZeroes` -/
def vnvmeStorageWriteZeroes (b : Backing) (offset : UInt64) (length : UInt32) :
    NtStatus × Backing :=
  match b.1.type with
  | .memory =>
    let r := storageMemoryWriteZeroes b.1 offset length
    (r.1, r.2, b.2)
  | .file => zeroThroughBuffer b offset length
  | .sparse => storageSparseWriteZeroes b offset length
  | .none => (.notSupported, b)

/-- `VnvmeStorageFlush` -/
def vnvmeStorageFlush (ctx : StorageContext) : NtStatus :=
  match ctx.type with
  | .memory => .success
  | .file => storageFileFlush ctx
  | .sparse => storageFileFlush ctx
  | .none => .notSupported

/-- `VnvmeStorageGetDirect` -/
def vnvmeStorageGetDirect (ctx : StorageContext) (offset : UInt64) (length : UInt32) :
    NtStatus × StorageContext :=
  match ctx.type with
  | .memory => storageMemoryGetDirect ctx offset length
  | _ => (.notSupported, ctx)

end VirtualNvme
