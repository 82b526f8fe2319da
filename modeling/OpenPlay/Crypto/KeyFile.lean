import OpenPlay.Crypto.Identity
import OpenPlay.Foundation.Process

/-!
# The file of the private key

`certs.rs` call by call, among other users of the machine: `load_or_generate` with
`create_data_dir`, `load_from_files`, `enforce_key_permissions`, `save_to_files`,
`write_key_file` and `open_private_file`.

A key file has a number, which stands for its inode: who has opened it keeps it, whatever
becomes of its mode or its name.  The owner may put a file in place of the key at any time, as
from a backup, with any mode.  Other users reach the files, and open what its mode lets
anybody open, but do not write in the directory.
-/

namespace OpenPlay.Crypto.KeyFile

open Transition Process Process.Program

/-! ## Files and calls -/

/-- `KEY_MODE`. -/
def keyMode : UInt32 := 0o600

/-- No bits for the group and none for others. -/
abbrev IsPrivate (mode : UInt32) : Prop := mode &&& 0o077 = 0

structure KeyFile where
  mode : UInt32
  content : List Char
deriving DecidableEq

structure Files where
  cert : Option (List Char)
  /-- Every key file that there has been. -/
  files : List KeyFile
  /-- The one that has the name. -/
  key : Option Nat
  /-- Those that another user has opened. -/
  opened : List Nat
deriving DecidableEq

inductive SysCall
  | createDataDir
  | certExists
  | keyExists
  | readCert
  | writeCert (text : List Char)
  | statKey
  | chmodKey (mode : UInt32)
  | readKey
  | openKey (mode : UInt32)
  | fchmod (fd : Nat) (mode : UInt32)
  | write (fd : Nat) (text : List Char)
  | sync (fd : Nat)

@[reducible] def SysCall.Answer : SysCall → Type
  | certExists | keyExists => Bool
  | readCert | readKey => List Char
  | statKey => UInt32
  | openKey _ | write _ _ => Nat
  | _ => Unit

/-- A call works, and if it is a write writes at most `n` characters; or it fails. -/
inductive Choice
  | works (n : Nat)
  | fails (left : Left)
deriving DecidableEq

namespace Files

variable (s : Files)

def keyFile : Option KeyFile := s.key.bind fun i => s.files[i]?

def setMode (i : Nat) (mode : UInt32) : Files :=
  { s with files := s.files.modify i fun f => { f with mode := mode } }

def setContent (i : Nat) (content : List Char → List Char) : Files :=
  { s with files := s.files.modify i fun f => { f with content := content f.content } }

/-- `open` with `O_CREAT` and `O_TRUNC`. -/
def openKey (umask mode : UInt32) : Nat × Files :=
  match s.key with
  | some i => (i, s.setContent i fun _ => [])
  | none =>
      (s.files.length, { s with
        files := s.files ++ [⟨mode &&& ~~~umask, []⟩], key := some s.files.length })

/-- What a call does, and what it answers. -/
def perform (umask : UInt32) : Choice → (c : SysCall) → Files → Option c.Answer × Files
  | .works _, .createDataDir, s => (some (), s)
  | .works _, .certExists, s => (some s.cert.isSome, s)
  | .works _, .keyExists, s => (some s.key.isSome, s)
  | .works _, .readCert, s => (s.cert, s)
  | .works _, .writeCert text, s => (some (), { s with cert := some text })
  | .fails left, .writeCert text, s => (none, { s with cert := left.of s.cert text })
  | .works _, .statKey, s => (s.keyFile.map KeyFile.mode, s)
  | .works _, .chmodKey mode, s =>
      match s.key with
      | some i => (some (), s.setMode i mode)
      | none => (none, s)
  | .works _, .readKey, s => (s.keyFile.map KeyFile.content, s)
  | .works _, .openKey mode, s => (some (s.openKey umask mode).1, (s.openKey umask mode).2)
  | .works _, .fchmod fd mode, s =>
      if fd < s.files.length then (some (), s.setMode fd mode) else (none, s)
  | .works n, .write fd text, s =>
      if fd < s.files.length then
        (some (min n text.length), s.setContent fd fun old => old ++ text.take n)
      else (none, s)
  | .works _, .sync _, s => (some (), s)
  | .fails _, _, s => (none, s)

end Files

/-- What the owner and the other users do. -/
inductive Other
  /-- Another user opens the key file. -/
  | opens
  /-- The owner puts a file in place of the key. -/
  | restore (mode : UInt32) (text : List Char)
  | remove
  | setCert (cert : Option (List Char))
deriving DecidableEq

def Other.act : Other → Files → Option Files
  | .opens, s =>
      match s.key with
      | some i =>
          if (s.keyFile.any fun f => !decide (IsPrivate f.mode)) then
            some { s with opened := i :: s.opened }
          else none
      | none => none
  | .restore mode text, s =>
      some { s with files := s.files ++ [⟨mode, text⟩], key := some s.files.length }
  | .remove, s => some { s with key := none }
  | .setCert cert, s => some { s with cert := cert }

/-! ## The code -/

section Code

/-- A part of `certs.rs`. -/
abbrev Steps (α : Type) := Program SysCall SysCall.Answer String α

/-- A call with the context of its error. -/
def sys (c : SysCall) (context : String) : Steps c.Answer := attempt c context

variable (dataDir : String)

def keyPath : String := s!"{dataDir}/openplay.key.pem"

def restrictError : String := s!"Failed to restrict permissions on {keyPath dataDir}"

def createDataDir : Steps Unit :=
  sys .createDataDir (DiskCall.createDataDir.error dataDir)

def openPrivateFile : Steps Nat := do
  let fd ← sys (.openKey keyMode) (DiskCall.openKey.error dataDir)
  sys (.fchmod fd keyMode) (restrictError dataDir)
  return fd

/-- `Write::write_all`; each write takes at least one of the characters. -/
def writeAll (fd : Nat) : Nat → List Char → Steps Unit
  | 0, _ => pure ()
  | fuel + 1, text =>
      if text = [] then pure ()
      else do
        let n ← sys (.write fd text) (DiskCall.writeKey.error dataDir)
        if n = 0 then
          liftM (Except.error (DiskCall.writeKey.error dataDir) : Except String Unit)
        else writeAll fd fuel (text.drop n)

def writeKeyFile (keyPem : List Char) : Steps Unit := do
  let fd ← openPrivateFile dataDir
  writeAll dataDir fd keyPem.length keyPem
  sys (.sync fd) (DiskCall.syncKey.error dataDir)

def enforceKeyPermissions : Steps Unit := do
  let mode ← sys .statKey s!"Failed to stat key file: {keyPath dataDir}"
  if mode &&& 0o777 &&& 0o077 = 0 then pure ()
  else sys (.chmodKey keyMode) (restrictError dataDir)

variable {Key ServerConfig : Type} (tls : Tls Key ServerConfig) (sha256 : Sha256)

def loadFromFiles : Steps CertificateManager := do
  let certPem ← sys .readCert "Failed to read certificate file"
  enforceKeyPermissions dataDir
  let keyPem ← sys .readKey "Failed to read key file"
  liftM (Crypto.loadFromFiles tls sha256 certPem keyPem)

def saveToFiles (generated : Generated) : Steps Unit := do
  sys (.writeCert generated.certPem) (DiskCall.writeCert.error dataDir)
  writeKeyFile dataDir generated.keyPem

/-- `cert_path.exists() && key_path.exists()`. -/
def bothExist : Steps Bool := do
  let certExists ← try' SysCall.certExists
  if certExists.getD false then do
    let keyExists ← try' SysCall.keyExists
    return keyExists.getD false
  else return false

/-- `load_or_generate`.  What `generate` comes to is given. -/
def loadOrGenerate (generate : Except String Generated) : Steps CertificateManager := do
  createDataDir dataDir
  let exist ← bothExist
  if exist then loadFromFiles dataDir tls sha256
  else do
    let generated ← (liftM generate : Steps Generated)
    saveToFiles dataDir generated
    return generated.manager sha256

end Code

/-! ## What a launch takes care of -/

section Care

variable {umask : UInt32} {calm : Prop} {s s' : Files} {fd : Nat} {before : List Char}

/-- What the others do to the files of a launch: they change no mode, and if they are calm
nothing of the key file. -/
structure Between (calm : Prop) (s s' : Files) : Prop where
  modes : ∀ (i : Nat) (f : KeyFile), s.files[i]? = some f →
    ∃ f', s'.files[i]? = some f' ∧ f'.mode = f.mode
  key : calm → s'.key = s.key ∧ s'.files = s.files

/-- The calls that a launch may make. -/
def Allowed : SysCall → Files → Prop
  | .openKey mode, _ | .fchmod _ mode, _ | .chmodKey mode, _ => mode = keyMode
  | .write fd _, s => ∃ f, s.files[fd]? = some f ∧ f.mode = keyMode
  | _, _ => True

/-- A file is open and private, and if the others are calm it is the key file. -/
def Holds (calm : Prop) (fd : Nat) (content : List Char) (s : Files) : Prop :=
  ∃ f, s.files[fd]? = some f ∧ f.mode = keyMode ∧
    (calm → s.key = some fd ∧ f.content = content)

/-- If the others are calm, the key file is private and has this content. -/
def IsFiled (calm : Prop) (content : List Char) (s : Files) : Prop :=
  calm → ∃ f, s.keyFile = some f ∧ IsPrivate f.mode ∧ f.content = content

theorem Between.refl (s : Files) : Between calm s s :=
  ⟨fun _ f found => ⟨f, found, rfl⟩, fun _ => ⟨rfl, rfl⟩⟩

theorem Between.trans {s s' s'' : Files} (first : Between calm s s')
    (second : Between calm s' s'') : Between calm s s'' := by
  refine ⟨fun i f found => ?_, fun isCalm => ?_⟩
  · obtain ⟨f', found', same'⟩ := first.modes i f found
    obtain ⟨f'', found'', same''⟩ := second.modes i f' found'
    exact ⟨f'', found'', same''.trans same'⟩
  · obtain ⟨key, files⟩ := first.key isCalm
    obtain ⟨key', files'⟩ := second.key isCalm
    exact ⟨key'.trans key, files'.trans files⟩

theorem Holds.stable (holds : Holds calm fd before s) (moved : Between calm s s') :
    Holds calm fd before s' := by
  obtain ⟨f, found, mode, isKey⟩ := holds
  obtain ⟨f', found', same⟩ := moved.modes fd f found
  refine ⟨f', found', same.trans mode, fun isCalm => ?_⟩
  obtain ⟨key, files⟩ := moved.key isCalm
  rw [files, found] at found'
  cases found'
  exact ⟨key.trans (isKey isCalm).1, (isKey isCalm).2⟩

theorem getElem?_setMode (i j : Nat) (mode : UInt32) :
    (s.setMode i mode).files[j]? =
      (s.files[j]?).map fun f => if i = j then { f with mode := mode } else f := by
  rw [Files.setMode, List.getElem?_modify]
  split_ifs <;> simp

theorem getElem?_setContent (i j : Nat) (content : List Char → List Char) :
    (s.setContent i content).files[j]? =
      (s.files[j]?).map fun f => if i = j then { f with content := content f.content } else f := by
  rw [Files.setContent, List.getElem?_modify]
  split_ifs <;> simp

/-- What `open` hands out has the name, and is empty. -/
theorem openKey_spec (s : Files) (umask mode : UInt32) :
    (s.openKey umask mode).2.key = some (s.openKey umask mode).1 ∧
      ∀ f, (s.openKey umask mode).2.files[(s.openKey umask mode).1]? = some f →
        f.content = [] := by
  rw [Files.openKey]
  cases key : s.key with
  | none =>
    refine ⟨rfl, fun f found => ?_⟩
    rw [List.getElem?_concat_length] at found
    cases found
    rfl
  | some i =>
    refine ⟨key, fun f found => ?_⟩
    rw [getElem?_setContent, Option.map_eq_some_iff] at found
    obtain ⟨old, -, rfl⟩ := found
    rw [if_pos rfl]

variable {dataDir : String}

theorem careful_openPrivateFile :
    Careful (Files.perform umask) (Between calm) Allowed (fun fd s => Holds calm fd [] s)
      (openPrivateFile dataDir) s := by
  refine careful_bind (fun fd s => calm → s.key = some fd ∧
      ∀ f, s.files[fd]? = some f → f.content = [])
    (careful_attempt fun s' moved => ⟨rfl, fun choice fd opened => ?_⟩) fun fd s isKey => ?_
  · cases choice with
    | fails left => cases opened
    | works n =>
      cases opened
      exact fun _ => openKey_spec _ umask keyMode
  · refine careful_bind (fun _ s => Holds calm fd [] s)
      (careful_attempt fun s' moved => ⟨rfl, fun choice a worked => ?_⟩)
      fun _ _ holds => careful_pure holds
    cases choice with
    | fails left => cases worked
    | works n =>
      rw [Files.perform] at worked ⊢
      split_ifs at worked with inside
      rw [if_pos inside]
      refine ⟨{ s'.files[fd] with mode := keyMode }, ?_, rfl, fun isCalm => ?_⟩
      · rw [getElem?_setMode, List.getElem?_eq_getElem inside]
        exact congrArg some (if_pos rfl)
      · obtain ⟨key, files⟩ := moved.key isCalm
        obtain ⟨named, empty⟩ := isKey isCalm
        refine ⟨key.trans named, empty s'.files[fd] ?_⟩
        rw [← files, List.getElem?_eq_getElem inside]

theorem careful_writeAll (fuel : Nat) (text : List Char) (enough : text.length ≤ fuel)
    (holds : Holds calm fd before s) :
    Careful (Files.perform umask) (Between calm) Allowed
      (fun _ s => Holds calm fd (before ++ text) s) (writeAll dataDir fd fuel text) s := by
  induction fuel generalizing text before s with
  | zero =>
    rw [List.length_eq_zero_iff.mp (Nat.le_zero.mp enough), List.append_nil]
    exact careful_pure holds
  | succ fuel ih =>
    rw [writeAll]
    split_ifs with empty
    · rw [empty, List.append_nil]
      exact careful_pure holds
    · refine careful_bind (fun n s => Holds calm fd (before ++ text.take n) s)
        (careful_attempt fun s' moved => ⟨?_, fun choice n worked => ?_⟩) fun n s holds => ?_
      · obtain ⟨f, found, mode, -⟩ := holds.stable moved
        exact ⟨f, found, mode⟩
      · obtain ⟨f, found, mode, isKey⟩ := holds.stable moved
        cases choice with
        | fails left => cases worked
        | works k =>
          have inside : fd < s'.files.length := (List.getElem?_eq_some_iff.mp found).1
          rw [Files.perform, if_pos inside] at worked ⊢
          cases worked
          refine ⟨{ f with content := f.content ++ text.take k }, ?_, mode, fun isCalm => ?_⟩
          · rw [getElem?_setContent, found]
            exact congrArg some (if_pos rfl)
          · refine ⟨(isKey isCalm).1, ?_⟩
            show f.content ++ text.take k = before ++ text.take (min k text.length)
            rw [(isKey isCalm).2, ← List.take_eq_take_min]
      · split_ifs with none
        · exact careful_error
        · have progress : 0 < (n : Nat) := Nat.pos_of_ne_zero none
          have shorter : (text.drop n).length ≤ fuel := by
            rw [List.length_drop]
            exact Nat.le_of_lt_succ (Nat.lt_of_lt_of_le
              (Nat.sub_lt (List.length_pos_iff.mpr empty) progress) enough)
          have rest := ih (text.drop n) shorter holds
          rwa [List.append_assoc, List.take_append_drop] at rest

/-- The key is written once the file is private. -/
theorem careful_writeKeyFile (keyPem : List Char) :
    Careful (Files.perform umask) (Between calm) Allowed
      (fun _ s => IsFiled calm keyPem s) (writeKeyFile dataDir keyPem) s := by
  refine careful_bind _ careful_openPrivateFile fun fd s holds => ?_
  refine careful_bind _ (careful_writeAll _ keyPem (Nat.le_refl _) holds) fun _ s holds => ?_
  refine careful_attempt fun s' moved => ⟨trivial, fun choice a worked isCalm => ?_⟩
  obtain ⟨f, found, mode, isKey⟩ := holds.stable moved
  cases choice with
  | fails left => cases worked
  | works n =>
    refine ⟨f, ?_, ?_, (isKey isCalm).2⟩
    · show s'.key.bind _ = _
      rw [(isKey isCalm).1]
      exact found
    · rw [mode]
      decide

theorem careful_saveToFiles (generated : Generated) :
    Careful (Files.perform umask) (Between calm) Allowed
      (fun _ s => IsFiled calm generated.keyPem s) (saveToFiles dataDir generated) s :=
  careful_bind (fun _ _ => True) (careful_attempt fun _ _ => ⟨trivial, fun _ _ _ => trivial⟩)
    fun _ _ _ => careful_writeKeyFile generated.keyPem

/-- No key file is open to other users any more. -/
def Enforced (calm : Prop) (s : Files) : Prop :=
  calm → ∀ f, s.keyFile = some f → IsPrivate f.mode

theorem careful_enforceKeyPermissions :
    Careful (Files.perform umask) (Between calm) Allowed (fun _ s => Enforced calm s)
      (enforceKeyPermissions dataDir) s := by
  refine careful_bind (fun mode s => calm → ∀ f, s.keyFile = some f → f.mode = mode)
    (careful_attempt fun s' moved => ⟨trivial, fun choice mode worked => ?_⟩) fun mode s is => ?_
  · cases choice with
    | fails left => cases worked
    | works n =>
      intro _ f found
      replace worked : s'.keyFile.map KeyFile.mode = some mode := worked
      replace found : s'.keyFile = some f := found
      rw [found] at worked
      exact Option.some.inj worked
  · split_ifs with quiet
    · refine careful_pure fun isCalm f found => ?_
      rw [is isCalm f found]
      rw [UInt32.and_assoc] at quiet
      exact quiet
    · refine careful_attempt fun s' moved => ⟨rfl, fun choice a worked isCalm f found => ?_⟩
      cases choice with
      | fails left => cases worked
      | works n =>
        cases key : s'.key with
        | none =>
          rw [Files.perform, key] at worked
          cases worked
        | some i =>
          rw [Files.perform, key] at found
          rw [Files.keyFile, show (s'.setMode i keyMode).key = some i from key, Option.bind_some,
            getElem?_setMode, Option.map_eq_some_iff] at found
          obtain ⟨old, -, rfl⟩ := found
          rw [if_pos rfl]
          show IsPrivate keyMode
          decide

theorem keyFile_of_calm (moved : Between calm s s') (isCalm : calm) : s'.keyFile = s.keyFile := by
  obtain ⟨key, files⟩ := moved.key isCalm
  rw [Files.keyFile, Files.keyFile, key, files]

variable {Key ServerConfig : Type} {tls : Tls Key ServerConfig} {sha256 : Sha256}

theorem keyPem_of_loadFromFiles {certPem keyPem : List Char} {manager : CertificateManager}
    (loaded : Crypto.loadFromFiles tls sha256 certPem keyPem = .ok manager) :
    manager.keyPem = keyPem := by
  rw [Crypto.loadFromFiles] at loaded
  split at loaded <;> cases loaded
  rfl

theorem careful_loadFromFiles :
    Careful (Files.perform umask) (Between calm) Allowed
      (fun manager s => IsFiled calm manager.keyPem s) (loadFromFiles dataDir tls sha256) s := by
  refine careful_bind (fun _ _ => True)
    (careful_attempt fun _ _ => ⟨trivial, fun _ _ _ => trivial⟩) fun certPem s _ => ?_
  refine careful_bind _ careful_enforceKeyPermissions fun _ s enforced => ?_
  refine careful_bind (fun keyPem s => IsFiled calm keyPem s)
    (careful_attempt fun s' moved => ⟨trivial, fun choice keyPem worked isCalm => ?_⟩)
    fun keyPem s filed => careful_lift fun manager loaded => ?_
  · cases choice with
    | fails left => cases worked
    | works n =>
      replace worked : s'.keyFile.map KeyFile.content = some keyPem := worked
      obtain ⟨f, found, content⟩ := Option.map_eq_some_iff.mp worked
      exact ⟨f, found, enforced isCalm f (keyFile_of_calm moved isCalm ▸ found), content⟩
  · rw [keyPem_of_loadFromFiles loaded]
    exact filed

/-- **A launch is careful**: it touches the key's mode only to make it private, writes to no
other file, and leaves what it returns in one. -/
theorem careful_loadOrGenerate (generate : Except String Generated) :
    Careful (Files.perform umask) (Between calm) Allowed
      (fun manager s => IsFiled calm manager.keyPem s)
      (loadOrGenerate dataDir tls sha256 generate) s := by
  refine careful_bind (fun _ _ => True)
    (careful_attempt fun _ _ => ⟨trivial, fun _ _ _ => trivial⟩) fun _ s _ => ?_
  refine careful_bind (fun _ _ => True) ?_ fun exist s _ => ?_
  · refine careful_bind (fun _ _ => True) (careful_try fun _ _ => ⟨trivial, fun _ => trivial⟩)
      fun certExists s _ => ?_
    split_ifs
    · exact careful_bind (fun _ _ => True) (careful_try fun _ _ => ⟨trivial, fun _ => trivial⟩)
        fun _ _ _ => careful_pure trivial
    · exact careful_pure trivial
  · split_ifs
    · exact careful_loadFromFiles
    · refine careful_bind (fun _ _ => True) (careful_lift fun _ _ => trivial)
        fun generated s _ => ?_
      exact careful_bind _ (careful_saveToFiles generated) fun _ s filed => careful_pure filed

end Care

/-! ## Among other users -/

section Runs

variable {Key ServerConfig : Type}

/-- Launches one after the other, at the beginning without files. -/
def keyWorld (umask : UInt32) (dataDir : String) (tls : Tls Key ServerConfig) (sha256 : Sha256) :
    System (Machine Files SysCall SysCall.Answer String CertificateManager)
      (Action (Except String Generated) Choice Other)
      (Option (Except String CertificateManager)) :=
  processes (Files.perform umask) (loadOrGenerate dataDir tls sha256) Other.act
    fun s => s = ⟨none, [], none, []⟩

abbrev KeyMove := ProcessMove SysCall SysCall.Answer String CertificateManager Files
  (Except String Generated) Choice Other

/-- A launch makes a new key file. -/
def Creates (move : KeyMove) (i : Nat) : Prop :=
  ∃ n mode, move.Calls (.works n) (.openKey mode) ∧ move.source.state.key = none ∧
    move.target.state.key = some i

/-- A launch sets the mode of a key file. -/
def Tightens (move : KeyMove) (i : Nat) : Prop :=
  i < move.source.state.files.length ∧ ∃ n mode, move.Calls (.works n) (.fchmod i mode) ∨
    move.Calls (.works n) (.chmodKey mode) ∧ move.source.state.key = some i

/-- The owner puts a file in place of the key. -/
def Restores (move : KeyMove) (i : Nat) (mode : UInt32) : Prop :=
  ∃ text, move.action = .other (.restore mode text) ∧ move.source.state.files.length = i

variable {umask : UInt32} {dataDir : String} {tls : Tls Key ServerConfig} {sha256 : Sha256}
variable {past : List KeyMove} {m : Machine Files SysCall SysCall.Answer String CertificateManager}
variable {choice : Choice} {c : SysCall} {s s' : Files} {move : KeyMove} {i : Nat}

theorem between_of_act {o : Other} (acts : o.act s = some s') : Between False s s' := by
  refine ⟨fun i f found => ?_, False.elim⟩
  cases o with
  | opens =>
    rw [Other.act] at acts
    split at acts
    · split_ifs at acts
      cases acts
      exact ⟨f, found, rfl⟩
    · cases acts
  | restore mode text =>
    cases acts
    exact ⟨f, List.getElem?_append_left (List.getElem?_eq_some_iff.mp found).1 ▸ found, rfl⟩
  | remove =>
    cases acts
    exact ⟨f, found, rfl⟩
  | setCert cert =>
    cases acts
    exact ⟨f, found, rfl⟩

theorem between_of_opens (acts : Other.opens.act s = some s') : Between True s s' := by
  rw [Other.act] at acts
  split at acts
  · split_ifs at acts
    cases acts
    exact ⟨fun i f found => ⟨f, found, rfl⟩, fun _ => ⟨rfl, rfl⟩⟩
  · cases acts

/-- The mode that `open` gives a new file. -/
theorem isPrivate_masked (umask : UInt32) : IsPrivate (keyMode &&& ~~~umask) := by
  show keyMode &&& ~~~umask &&& 0o077 = 0
  rw [UInt32.and_assoc, UInt32.and_comm (~~~umask), ← UInt32.and_assoc,
    show keyMode &&& 0o077 = 0 from rfl, UInt32.zero_and]

theorem mode_of_setContent {content : List Char → List Char} {j : Nat} {f' : KeyFile}
    (found : (s.setContent j content).files[i]? = some f') :
    ∃ f, s.files[i]? = some f ∧ f'.mode = f.mode := by
  rw [getElem?_setContent, Option.map_eq_some_iff] at found
  obtain ⟨f, was, rfl⟩ := found
  refine ⟨f, was, ?_⟩
  split_ifs <;> rfl

theorem mode_of_setMode {j : Nat} {f' : KeyFile}
    (found : (s.setMode j keyMode).files[i]? = some f') :
    (∃ f, s.files[i]? = some f ∧ f'.mode = f.mode) ∧ i ≠ j ∨ IsPrivate f'.mode := by
  rw [getElem?_setMode, Option.map_eq_some_iff] at found
  obtain ⟨f, was, rfl⟩ := found
  split_ifs with same
  · exact Or.inr (by show IsPrivate keyMode; decide)
  · exact Or.inl ⟨⟨f, was, rfl⟩, Ne.symm same⟩

/-- A call leaves a file its mode, or makes it private. -/
theorem mode_of_perform (allowed : Allowed c s) {f' : KeyFile}
    (found : (Files.perform umask choice c s).2.files[i]? = some f') :
    IsPrivate f'.mode ∨ ∃ f, s.files[i]? = some f ∧ f'.mode = f.mode := by
  cases choice with
  | fails left => cases c <;> exact Or.inr ⟨f', found, rfl⟩
  | works n =>
    cases c with
    | chmodKey mode =>
      cases show mode = keyMode from allowed
      rw [Files.perform] at found
      split at found
      · exact (mode_of_setMode found).symm.imp_right fun kept => kept.1
      · exact Or.inr ⟨f', found, rfl⟩
    | openKey mode =>
      cases show mode = keyMode from allowed
      rw [Files.perform, Files.openKey] at found
      split at found
      · exact Or.inr (mode_of_setContent found)
      · rcases Nat.lt_or_ge i s.files.length with inside | outside
        · rw [List.getElem?_append_left inside] at found
          exact Or.inr ⟨f', found, rfl⟩
        · rw [List.getElem?_append_right outside, List.getElem?_singleton] at found
          split_ifs at found
          cases found
          exact Or.inl (isPrivate_masked umask)
    | fchmod fd mode =>
      cases show mode = keyMode from allowed
      rw [Files.perform] at found
      split_ifs at found
      · exact (mode_of_setMode found).symm.imp_right fun kept => kept.1
      · exact Or.inr ⟨f', found, rfl⟩
    | write fd text =>
      rw [Files.perform] at found
      split_ifs at found
      · exact Or.inr (mode_of_setContent found)
      · exact Or.inr ⟨f', found, rfl⟩
    | _ => exact Or.inr ⟨f', found, rfl⟩

/-- A call that sets the mode of a file makes it private. -/
theorem isPrivate_of_tightened {n : Nat} {mode : UInt32} (allowed : Allowed c s)
    (is : c = .fchmod i mode ∨ c = .chmodKey mode ∧ s.key = some i) {f' : KeyFile}
    (found : (Files.perform umask (.works n) c s).2.files[i]? = some f') : IsPrivate f'.mode := by
  rcases is with rfl | ⟨rfl, key⟩
  · cases show mode = keyMode from allowed
    rw [Files.perform] at found
    split_ifs at found with inside
    · exact (mode_of_setMode found).resolve_left fun kept => kept.2 rfl
    · exact absurd (List.getElem?_eq_some_iff.mp found).1 inside
  · cases show mode = keyMode from allowed
    rw [Files.perform, key] at found
    exact (mode_of_setMode found).resolve_left fun kept => kept.2 rfl

/-- A call opens nothing for others; a file has its number for good, and a new one the next. -/
theorem frame_of_perform (umask : UInt32) (choice : Choice) (c : SysCall) (s : Files) :
    (Files.perform umask choice c s).2.opened = s.opened ∧
      ((Files.perform umask choice c s).2.key = s.key ∧
          (Files.perform umask choice c s).2.files.length = s.files.length ∨
        (Files.perform umask choice c s).2.key = some s.files.length ∧ s.key = none ∧
          (Files.perform umask choice c s).2.files.length = s.files.length + 1) := by
  cases choice with
  | fails left => cases c <;> exact ⟨rfl, Or.inl ⟨rfl, rfl⟩⟩
  | works n =>
    cases c with
    | chmodKey mode =>
      rw [Files.perform]
      split
      · exact ⟨rfl, Or.inl ⟨rfl, List.length_modify _ _ _⟩⟩
      · exact ⟨rfl, Or.inl ⟨rfl, rfl⟩⟩
    | openKey mode =>
      rw [Files.perform, Files.openKey]
      split
      · exact ⟨rfl, Or.inl ⟨rfl, List.length_modify _ _ _⟩⟩
      · rename_i none
        exact ⟨rfl, Or.inr ⟨rfl, none, List.length_append⟩⟩
    | fchmod fd mode =>
      rw [Files.perform]
      split_ifs
      · exact ⟨rfl, Or.inl ⟨rfl, List.length_modify _ _ _⟩⟩
      · exact ⟨rfl, Or.inl ⟨rfl, rfl⟩⟩
    | write fd text =>
      rw [Files.perform]
      split_ifs
      · exact ⟨rfl, Or.inl ⟨rfl, List.length_modify _ _ _⟩⟩
      · exact ⟨rfl, Or.inl ⟨rfl, rfl⟩⟩
    | _ => exact ⟨rfl, Or.inl ⟨rfl, rfl⟩⟩

/-! ## The history of a key file -/

def Created (past : List KeyMove) (i : Nat) : Prop := ∃ move ∈ past, Creates move i

def Tightened (past : List KeyMove) (i : Nat) : Prop := ∃ move ∈ past, Tightens move i

def Restored (past : List KeyMove) (i : Nat) (mode : UInt32) : Prop :=
  ∃ move ∈ past, Restores move i mode

/-- A file was left open by its owner, and by nobody else. -/
def LeftOpen (past : List KeyMove) (i : Nat) : Prop :=
  ¬ Created past i ∧ ∃ mode, Restored past i mode ∧ ¬ IsPrivate mode

/-- A file is private, or as its owner has put it there. -/
structure Kept (past : List KeyMove) (s : Files) : Prop where
  key : ∀ i, s.key = some i → i < s.files.length
  modes : ∀ (i : Nat) (f : KeyFile), s.files[i]? = some f → IsPrivate f.mode ∨
    ¬ Created past i ∧ ¬ Tightened past i ∧ Restored past i f.mode
  opened : ∀ i ∈ s.opened, i < s.files.length ∧ LeftOpen past i
  known : ∀ i, Created past i ∨ Tightened past i → i < s.files.length

theorem Kept.start : Kept [] ⟨none, [], none, []⟩ where
  key i named := by cases named
  modes i f found := by cases found
  opened i mem := by cases mem
  known i is := by
    rcases is with ⟨move, mem, -⟩ | ⟨move, mem, -⟩ <;> cases mem

theorem restored_cons {mode : UInt32} (restored : Restored past i mode) (move : KeyMove) :
    Restored (move :: past) i mode := by
  obtain ⟨earlier, mem, restores⟩ := restored
  exact ⟨earlier, List.mem_cons_of_mem _ mem, restores⟩

/-- A move that creates no file with this number. -/
theorem LeftOpen.cons (left : LeftOpen past i) (quiet : ¬ Creates move i) :
    LeftOpen (move :: past) i := by
  obtain ⟨notCreated, mode, restored, isOpen⟩ := left
  refine ⟨?_, mode, restored_cons restored move, isOpen⟩
  rintro ⟨earlier, mem, creates⟩
  rcases List.mem_cons.mp mem with rfl | mem
  · exact quiet creates
  · exact notCreated ⟨earlier, mem, creates⟩

/-- A file that stays as it is. -/
theorem keeps_restored {f : KeyFile}
    (was : ¬ Created past i ∧ ¬ Tightened past i ∧ Restored past i f.mode)
    (notCreated : ¬ Creates move i) (notTightened : ¬ Tightens move i) :
    ¬ Created (move :: past) i ∧ ¬ Tightened (move :: past) i ∧
      Restored (move :: past) i f.mode := by
  refine ⟨?_, ?_, restored_cons was.2.2 move⟩
  · rintro ⟨earlier, mem, creates⟩
    rcases List.mem_cons.mp mem with rfl | mem
    · exact notCreated creates
    · exact was.1 ⟨earlier, mem, creates⟩
  · rintro ⟨earlier, mem, tightens⟩
    rcases List.mem_cons.mp mem with rfl | mem
    · exact notTightened tightens
    · exact was.2.1 ⟨earlier, mem, tightens⟩

/-- What is created is new. -/
theorem eq_length_of_creates
    (made : (keyWorld umask dataDir tls sha256).Makes move) (creates : Creates move i) :
    i = move.source.state.files.length := by
  obtain ⟨n, mode, calls, none, now⟩ := creates
  rcases state_cases made with ⟨⟨l, is⟩ | is, -⟩ | ⟨choice, c, calls', now'⟩ | ⟨o, is, -⟩
  · cases calls.1.symm.trans is
  · cases calls.1.symm.trans is
  · obtain ⟨rfl, rfl⟩ := calls.unique calls'
    rw [now', Files.perform, Files.openKey, none] at now
    exact (Option.some.inj now).symm
  · cases calls.1.symm.trans is

/-- Only calls create and tighten. -/
theorem quiet_of_no_call (quiet : ∀ choice, move.action ≠ .call choice) :
    ¬ Creates move i ∧ ¬ Tightens move i := by
  constructor
  · rintro ⟨n, mode, calls, -⟩
    exact quiet _ calls.1
  · rintro ⟨-, n, mode, calls | ⟨calls, -⟩⟩
    · exact quiet _ calls.1
    · exact quiet _ calls.1

/-- What a move has to do with a file, if it is no call, is nothing. -/
theorem known_of_quiet (quiet : ∀ choice, move.action ≠ .call choice)
    (is : Created (move :: past) i ∨ Tightened (move :: past) i) :
    Created past i ∨ Tightened past i := by
  rcases is with ⟨earlier, mem, creates⟩ | ⟨earlier, mem, tightens⟩
  · rcases List.mem_cons.mp mem with rfl | mem
    · exact absurd creates (quiet_of_no_call quiet).1
    · exact Or.inl ⟨earlier, mem, creates⟩
  · rcases List.mem_cons.mp mem with rfl | mem
    · exact absurd tightens (quiet_of_no_call quiet).2
    · exact Or.inr ⟨earlier, mem, tightens⟩

/-- A move that is no call, and leaves the key files. -/
theorem Kept.still (kept : Kept past s) (quiet : ∀ choice, move.action ≠ .call choice)
    (key : s'.key = s.key ∨ s'.key = none) (files : s'.files = s.files)
    (opened : ∀ i ∈ s'.opened, i ∈ s.opened ∨
      s.key = some i ∧ ∃ f, s.files[i]? = some f ∧ ¬ IsPrivate f.mode) :
    Kept (move :: past) s' := by
  refine ⟨fun i named => ?_, fun i f found => ?_, fun i mem => ?_, fun i is => ?_⟩
  · rw [files]
    rcases key with same | none
    · exact kept.key i (same ▸ named)
    · rw [none] at named
      cases named
  · rw [files] at found
    refine (kept.modes i f found).imp_right fun was => ?_
    exact keeps_restored was (quiet_of_no_call quiet).1 (quiet_of_no_call quiet).2
  · rw [files]
    rcases opened i mem with was | ⟨named, f, found, isOpen⟩
    · exact ⟨(kept.opened i was).1, (kept.opened i was).2.cons (quiet_of_no_call quiet).1⟩
    · refine ⟨kept.key i named, LeftOpen.cons ?_ (quiet_of_no_call quiet).1⟩
      obtain ⟨notCreated, -, restored⟩ := (kept.modes i f found).resolve_left isOpen
      exact ⟨notCreated, f.mode, restored, isOpen⟩
  · rw [files]
    exact kept.known i (known_of_quiet quiet is)

theorem Kept.restore (kept : Kept past s) {mode : UInt32} {text : List Char}
    (is : move.action = .other (.restore mode text)) (source : move.source.state = s) :
    Kept (move :: past)
      { s with files := s.files ++ [⟨mode, text⟩], key := some s.files.length } := by
  have quiet (choice : Choice) : move.action ≠ .call choice := by
    rw [is]
    exact nofun
  have length : (s.files ++ [(⟨mode, text⟩ : KeyFile)]).length = s.files.length + 1 :=
    List.length_append
  refine ⟨fun i named => ?_, fun i f found => ?_, fun i mem => ?_, fun i is => ?_⟩
  · cases named
    rw [length]
    exact Nat.lt_succ_self _
  · rcases Nat.lt_or_ge i s.files.length with inside | outside
    · rw [List.getElem?_append_left inside] at found
      refine (kept.modes i f found).imp_right fun was => ?_
      exact keeps_restored was (quiet_of_no_call quiet).1 (quiet_of_no_call quiet).2
    · have unknown : ¬ (Created (move :: past) i ∨ Tightened (move :: past) i) := fun is =>
        absurd (kept.known i (known_of_quiet quiet is)) (Nat.not_lt.mpr outside)
      rw [List.getElem?_append_right outside, List.getElem?_singleton] at found
      split_ifs at found with last
      cases found
      refine Or.inr ⟨fun created => unknown (Or.inl created),
        fun tightened => unknown (Or.inr tightened), move, List.mem_cons_self, text, is, ?_⟩
      rw [source]
      omega
  · refine ⟨?_, (kept.opened i mem).2.cons (quiet_of_no_call quiet).1⟩
    rw [length]
    exact Nat.lt_succ_of_lt (kept.opened i mem).1
  · rw [length]
    exact Nat.lt_succ_of_lt (kept.known i (known_of_quiet quiet is))

/-- A call. -/
theorem Kept.call (kept : Kept past move.source.state) (calls : move.Calls choice c)
    (allowed : Allowed c move.source.state)
    (now : move.target.state = (Files.perform umask choice c move.source.state).2)
    (fresh : ∀ i, Creates move i → i = move.source.state.files.length) :
    Kept (move :: past) move.target.state := by
  obtain ⟨opened, frame⟩ := frame_of_perform umask choice c move.source.state
  have longer : move.source.state.files.length ≤
      (Files.perform umask choice c move.source.state).2.files.length := by
    rcases frame with ⟨-, length⟩ | ⟨-, -, length⟩ <;> omega
  rw [now]
  refine ⟨fun i named => ?_, fun i f' found => ?_, fun i mem => ?_, fun i is => ?_⟩
  · rcases frame with ⟨key, length⟩ | ⟨key, -, length⟩
    · rw [key] at named
      rw [length]
      exact kept.key i named
    · rw [key] at named
      cases named
      rw [length]
      exact Nat.lt_succ_self _
  · rcases mode_of_perform allowed found with isPrivate | ⟨f, was, same⟩
    · exact Or.inl isPrivate
    · by_cases isPrivate : IsPrivate f'.mode
      · exact Or.inl isPrivate
      · right
        rw [same] at isPrivate ⊢
        have inside : i < move.source.state.files.length := (List.getElem?_eq_some_iff.mp was).1
        refine keeps_restored ((kept.modes i f was).resolve_left isPrivate)
          (fun creates => absurd (fresh i creates) (Nat.ne_of_lt inside)) ?_
        rintro ⟨-, n, mode, tightens⟩
        refine isPrivate ?_
        rw [← same]
        rcases tightens with calls' | ⟨calls', key⟩
        · obtain ⟨rfl, rfl⟩ := calls.unique calls'
          exact isPrivate_of_tightened allowed (Or.inl rfl) found
        · obtain ⟨rfl, rfl⟩ := calls.unique calls'
          exact isPrivate_of_tightened allowed (Or.inr ⟨rfl, key⟩) found
  · rw [opened] at mem
    obtain ⟨inside, left⟩ := kept.opened i mem
    exact ⟨Nat.lt_of_lt_of_le inside longer,
      left.cons fun creates => absurd (fresh i creates) (Nat.ne_of_lt inside)⟩
  · rcases is with ⟨earlier, mem, creates⟩ | ⟨earlier, mem, tightens⟩
    · rcases List.mem_cons.mp mem with rfl | mem
      · rw [fresh i creates]
        obtain ⟨-, -, -, none, named⟩ := creates
        rcases frame with ⟨key, -⟩ | ⟨-, -, length⟩
        · rw [now, key, none] at named
          cases named
        · omega
      · exact Nat.lt_of_lt_of_le (kept.known i (Or.inl ⟨earlier, mem, creates⟩)) longer
    · rcases List.mem_cons.mp mem with rfl | mem
      · exact Nat.lt_of_lt_of_le tightens.1 longer
      · exact Nat.lt_of_lt_of_le (kept.known i (Or.inr ⟨earlier, mem, tightens⟩)) longer

theorem Kept.step (kept : Kept past move.source.state)
    (made : (keyWorld umask dataDir tls sha256).Makes move)
    (allowed : ∀ choice c, move.Calls choice c → Allowed c move.source.state) :
    Kept (move :: past) move.target.state := by
  rcases state_cases made with ⟨is, same⟩ | ⟨choice, c, calls, now⟩ | ⟨o, is, acts⟩
  · rw [same]
    refine kept.still (fun choice => ?_) (Or.inl rfl) rfl fun i mem => Or.inl mem
    rcases is with ⟨l, is⟩ | is <;> rw [is] <;> exact nofun
  · exact kept.call calls (allowed choice c calls) now fun i => eq_length_of_creates made
  · have quiet (choice : Choice) : move.action ≠ .call choice := by
      rw [is]
      exact nofun
    cases o with
    | opens =>
      rw [Other.act] at acts
      split at acts
      · rename_i i key
        split_ifs at acts with isOpen
        rw [← Option.some.inj acts]
        refine kept.still quiet (Or.inl rfl) rfl fun j mem => ?_
        rcases List.mem_cons.mp mem with rfl | mem
        · refine Or.inr ⟨key, ?_⟩
          rw [Files.keyFile, key, Option.bind_some] at isOpen
          obtain ⟨f, found, isOpen⟩ := (Option.any_eq_true _ _).mp isOpen
          exact ⟨f, found, by simpa using isOpen⟩
        · exact Or.inl mem
      · cases acts
    | restore mode text =>
      rw [← Option.some.inj acts]
      exact kept.restore is rfl
    | remove =>
      rw [← Option.some.inj acts]
      exact kept.still quiet (Or.inr rfl) rfl fun j mem => Or.inl mem
    | setCert cert =>
      rw [← Option.some.inj acts]
      exact kept.still quiet (Or.inl rfl) rfl fun j mem => Or.inl mem

theorem allowed_of_run (run : (keyWorld umask dataDir tls sha256).Run past m)
    {next : Option c.Answer → Steps CertificateManager}
    (running : m.running = some (.call c next)) :
    Allowed c m.state :=
  may_of_run (fun _ => True) Between.refl (fun _ _ _ => Between.trans)
    (fun generate _ => careful_loadOrGenerate generate) (fun _ _ _ _ => between_of_act) run
    (fun _ _ => trivial) running

theorem kept_of_run (run : (keyWorld umask dataDir tls sha256).Run past m) :
    Kept past m.state := by
  refine run.invariant_past (I := fun past m => Kept past m.state) (fun m first => ?_)
    fun past move before made kept => ?_
  · rw [first.1]
    exact .start
  · refine kept.step made fun choice c calls => ?_
    obtain ⟨-, next, running⟩ := calls
    exact allowed_of_run before running

/-- The owner puts a key file in place that others can read, and another user opens it; a launch
without a certificate writes a new key. -/
def restoredKey : List (Action (Except String Generated) Choice Other) :=
  [.other (.restore 0o644 "old".toList), .other .opens, .launch (.ok onePair)] ++
    List.replicate 5 (.call (.works 8))

abbrev restoredWorld : System (Machine Files SysCall SysCall.Answer String CertificateManager)
    (Action (Except String Generated) Choice Other)
    (Option (Except String CertificateManager)) :=
  keyWorld 0o022 "data" onePairTls fun _ => Vector.replicate 32 0

/-- The launch is about to write. -/
theorem restoredWorld_run :
    restoredWorld.Run (restoredWorld.history restoredKey ⟨⟨none, [], none, []⟩, none⟩)
      (restoredWorld.final restoredKey ⟨⟨none, [], none, []⟩, none⟩) :=
  .of_actions restoredKey ⟨rfl, rfl⟩ rfl

/-- **The key is never left open.**  Whatever fails, whenever a launch is killed, and whatever
others do in between: a key file that is not private is one that its owner has put there with
just that mode, and that no launch has tightened since; and only such a file has ever been
opened by another user, never one that a launch has created.  Every character of a key is
written to a private file. -/
theorem key_is_never_left_open (run : (keyWorld umask dataDir tls sha256).Run past m) :
    (∀ (i : Nat) (f : KeyFile), m.state.files[i]? = some f → ¬ IsPrivate f.mode →
      Restored past i f.mode ∧ ¬ Tightened past i ∧ ¬ Created past i) ∧
      (∀ i ∈ m.state.opened,
        (∃ mode, Restored past i mode ∧ ¬ IsPrivate mode) ∧ ¬ Created past i) ∧
      ∀ fd text next, m.running = some (.call (.write fd text) next) →
        ∃ f, m.state.files[fd]? = some f ∧ IsPrivate f.mode := by
  have kept := kept_of_run run
  refine ⟨fun i f found isOpen => ?_, fun i mem => ?_, fun fd text next running => ?_⟩
  · obtain ⟨notCreated, notTightened, restored⟩ := (kept.modes i f found).resolve_left isOpen
    exact ⟨restored, notTightened, notCreated⟩
  · obtain ⟨-, notCreated, restored⟩ := kept.opened i mem
    exact ⟨restored, notCreated⟩
  · obtain ⟨f, found, mode⟩ := allowed_of_run run running
    refine ⟨f, found, ?_⟩
    rw [mode]
    decide

theorem key_is_never_left_open_restored :
    let start := ⟨⟨none, [], none, []⟩, none⟩
    (restoredWorld.final restoredKey start).state.opened = [0] ∧
      ∀ i ∈ (restoredWorld.final restoredKey start).state.opened,
        ¬ Created (restoredWorld.history restoredKey start) i :=
  ⟨rfl, fun i mem => ((key_is_never_left_open restoredWorld_run).2.1 i mem).2⟩

/-- **A launch leaves its key private.**  If nobody has put away or replaced files since its
start, a launch that returns leaves the key file with just the key that it returns, and closed
to all other users. -/
theorem launch_leaves_key_private {move : KeyMove}
    (run : (keyWorld umask dataDir tls sha256).Run past move.source)
    (made : (keyWorld umask dataDir tls sha256).Makes move)
    (calmly : ∀ o ∈ meanwhile past, o = .opens) {manager : CertificateManager}
    (returned : move.output = some (.ok manager)) :
    (∃ f, move.target.state.keyFile = some f ∧ f.content = manager.keyPem ∧ IsPrivate f.mode) ∧
      Other.opens.act move.target.state = none := by
  have filed : IsFiled True manager.keyPem move.target.state :=
    post_of_run (fun o => o = .opens) Between.refl (fun _ _ _ => Between.trans)
      (fun generate _ => careful_loadOrGenerate generate)
      (fun o s s' is acts => by
        subst is
        exact between_of_opens acts) run made calmly returned
  obtain ⟨f, found, isPrivate, content⟩ := filed trivial
  refine ⟨⟨f, found, content, isPrivate⟩, ?_⟩
  rw [Other.act]
  split
  · rw [found, Option.any_some, decide_eq_true isPrivate]
    rfl
  · rfl

/-- An empty directory, and a launch up to its last call. -/
def firstKey : List (Action (Except String Generated) Choice Other) :=
  .launch (.ok onePair) :: List.replicate 6 (.call (.works 100))

/-- The last call of this launch. -/
def firstKeyMove : KeyMove :=
  let start := ⟨⟨none, [], none, []⟩, none⟩
  ⟨restoredWorld.final firstKey start, .call (.works 0),
    some (.ok (onePair.manager fun _ => Vector.replicate 32 0)),
    restoredWorld.final (firstKey ++ [.call (.works 0)]) start⟩

theorem launch_leaves_key_private_first :
    Other.opens.act firstKeyMove.target.state = none := by
  have run : restoredWorld.Run (restoredWorld.history firstKey ⟨⟨none, [], none, []⟩, none⟩)
      firstKeyMove.source := .of_actions firstKey ⟨rfl, rfl⟩ rfl
  have alone : meanwhile (restoredWorld.history firstKey ⟨⟨none, [], none, []⟩, none⟩) = [] := rfl
  refine (launch_leaves_key_private run rfl ?_ rfl).2
  rw [alone]
  exact nofun

end Runs

end OpenPlay.Crypto.KeyFile
