import VirtualNvme.Server.IoCommands
import VirtualNvme.Server.Config

/-!
# Opening and closing the server's storage

`BackendCreate` and `BackendDestroy` with their parts in `backend_memory.c` and
`backend_file.c`. As long as a file is open, its bytes are the data of the backend.
-/

namespace VirtualNvme

/-- A file: its size, and its bytes up to there. -/
structure DiskFile where
  size : UInt64 := 0
  data : UInt64 → UInt8 := fun _ => 0

/-- `BACKEND_CONFIG`. The flag for direct I/O only goes into the handle. -/
structure BackendConfig where
  type : BackendType
  size : UInt64
  filePath : List UInt16 := []
  readOnly : Bool := false
  blockSize : UInt32 := 0
  preallocate : Bool := false

/-- The configuration of the backend in `main`. -/
def StorageConfig.backendConfig (storage : StorageConfig) : BackendConfig where
  type := storage.backendType
  size := storage.size
  filePath := storage.filePath
  readOnly := storage.readOnly
  blockSize := storage.blockSize
  preallocate := storage.preallocate

/-- What the system does for a backend: the calls while it is created, and the file calls
afterwards. -/
structure BackendCalls where
  contextAllocated : Bool := true
  dataAllocated : Bool := true
  opened : Bool := true
  sizeKnown : Bool := true
  extended : Bool := true
  validDataSet : Bool := false
  /-- what the disk holds where `SetFileValidData` makes it part of the file -/
  behind : UInt64 → UInt8 := fun _ => 0
  fileOk : Nat → Bool := fun _ => true

/-- `BackendMemoryCreate`; more than 4 GB are cut down to 4 GB. -/
def backendMemoryCreate (config : BackendConfig) (calls : BackendCalls) : Option Backend :=
  if config.size = 0 then none
  else if calls.contextAllocated && calls.dataAllocated then
    some
      { type := .memory
        size := if config.size > 0x100000000 then 0x100000000 else config.size
        blockSize := if config.blockSize > 0 then config.blockSize else 512
        readOnly := config.readOnly }
  else none

/-- `CreateFileW` with `OPEN_EXISTING` or `OPEN_ALWAYS`; the latter makes an empty file if there
is none. -/
def createFile (config : BackendConfig) (calls : BackendCalls) (file : Option DiskFile) :
    Option DiskFile :=
  if calls.opened then
    if config.readOnly then file else some (file.getD {})
  else none

/-- What stands in the part of the file that is new. -/
def extensionByte (config : BackendConfig) (calls : BackendCalls) (x : UInt64) : UInt8 :=
  if config.preallocate && calls.validDataSet then calls.behind x else 0

/-- `SetFilePointerEx` and `SetEndOfFile`, and `SetFileValidData` if it works. -/
def DiskFile.extend (file : DiskFile) (config : BackendConfig) (calls : BackendCalls) :
    DiskFile where
  size := config.size
  data := fun x => if x < file.size then file.data x else extensionByte config calls x

/-- The file backend over an open file. Nothing can be read from a file that is empty. -/
def DiskFile.backend (file : DiskFile) (config : BackendConfig) (calls : BackendCalls)
    (size : UInt64) : Backend where
  type := .file
  size := size
  blockSize := if config.blockSize > 0 then config.blockSize else 512
  readOnly := config.readOnly
  data := file.data
  fileOk := fun n => decide (file.size ≠ 0) && calls.fileOk n

/-- The size of the file falls short, and the file may be written. -/
def BackendConfig.extends (config : BackendConfig) (file : DiskFile) : Bool :=
  decide (file.size < config.size) && !config.readOnly

/-- `BackendFileCreate`; it returns the file as well. An offset is a signed number for
`SetFilePointerEx`, which refuses negative ones. -/
def backendFileCreate (config : BackendConfig) (calls : BackendCalls) (file : Option DiskFile) :
    Option DiskFile × Option Backend :=
  if config.size = 0 ∨ config.filePath = [] then (file, none)
  else if !calls.contextAllocated then (file, none)
  else
    match createFile config calls file with
    | none => (file, none)
    | some opened =>
      if !calls.sizeKnown then (some opened, none)
      else if config.extends opened then
        if config.size < 0x8000000000000000 ∧ calls.extended then
          (some (opened.extend config calls),
            some ((opened.extend config calls).backend config calls config.size))
        else (some opened, none)
      else
        -- a file that may only be read, or one that is large enough
        let size := if opened.size > 0 ∧ opened.size < config.size then opened.size else config.size
        (some opened, some (opened.backend config calls size))

/-- `BackendCreate` -/
def backendCreate (config : BackendConfig) (calls : BackendCalls) (file : Option DiskFile) :
    Option DiskFile × Option Backend :=
  match config.type with
  | .memory => (file, backendMemoryCreate config calls)
  | .file => backendFileCreate config calls file

/-- `BackendDestroy`: the handle is closed, or the memory is given back. -/
def backendDestroy (b : Backend) (file : Option DiskFile) : Option DiskFile :=
  match b.type with
  | .memory => file
  | .file => file.map fun f => { f with data := b.data }

end VirtualNvme
