import OpenPlay.Crypto.KeyFile

/-!
# Launches in one step

`Crypto.loadOrGenerate` describes a launch as one step, with at most one fault.  Here it is
compared with the launch that makes its calls one by one: on two files, and as long as nobody
else is at work, each of them is a launch in one step, wherever a write is cut short, a call
that changes the disk fails, or the process is killed.
-/

namespace OpenPlay.Crypto.KeyFile

open Process Process.Program

/-- Only calls that change the disk fail. -/
def OnDisk : SysCall → Choice → Prop
  | .createDataDir, _ | .writeCert _, _ | .openKey _, _ | .write _ _, _ | .sync _, _ => True
  | _, choice => ∃ n, choice = .works n

/-- The texts of the two files. -/
def Files.disk (s : Files) : Disk := ⟨s.cert, s.keyFile.map KeyFile.content⟩

/-- The name leads to a file. -/
def Files.Named (s : Files) : Prop := ∀ i, s.key = some i → i < s.files.length

section Pieces

variable {umask : UInt32} {dataDir : String} {s s' : Files} {fd : Nat} {f : KeyFile}

theorem keyFile_of_key (key : s.key = some fd) : s.keyFile = s.files[fd]? := by
  rw [Files.keyFile, key, Option.bind_some]

theorem disk_setMode (i : Nat) (mode : UInt32) : (s.setMode i mode).disk = s.disk := by
  have same : (s.setMode i mode).keyFile.map KeyFile.content = s.keyFile.map KeyFile.content := by
    show (s.key.bind fun j => (s.setMode i mode).files[j]?).map _ = (s.key.bind _).map _
    cases s.key with
    | none => rfl
    | some j =>
      rw [Option.bind_some, Option.bind_some, getElem?_setMode, Option.map_map]
      congr 1
      funext f
      dsimp only [Function.comp_apply]
      split_ifs <;> rfl
  rw [Files.disk, same]
  rfl

/-- A call that works, or does not come about. -/
theorem alone_sys {c : SysCall} {context : String} {result : Option (Except String c.Answer)}
    (alone : Alone (Files.perform umask) OnDisk (sys c context) s result s')
    (works : ∀ choice, OnDisk c choice → ∃ n, choice = .works n) :
    result = none ∧ s' = s ∨ ∃ n, s' = (Files.perform umask (.works n) c s).2 ∧
      result = some ((Files.perform umask (.works n) c s).1.elim (.error context) .ok) := by
  refine (alone_attempt alone).imp_right ?_
  rintro ⟨choice, may, now, is⟩
  obtain ⟨n, rfl⟩ := works choice may
  exact ⟨n, now, is⟩

/-- A call that only looks. -/
theorem alone_answered {c : SysCall} {context : String} {a : c.Answer}
    {result : Option (Except String c.Answer)}
    (alone : Alone (Files.perform umask) OnDisk (sys c context) s result s')
    (works : ∀ choice, OnDisk c choice → ∃ n, choice = .works n)
    (answers : ∀ n, Files.perform umask (.works n) c s = (some a, s)) :
    s' = s ∧ (result = none ∨ result = some (.ok a)) := by
  rcases alone_sys alone works with ⟨none, now⟩ | ⟨n, now, is⟩
  · exact ⟨now, Or.inl none⟩
  · rw [answers] at now is
    exact ⟨now, Or.inr is⟩

/-- A program whose first part only looks. -/
theorem alone_after_look {c : SysCall} {context : String} {a : c.Answer} {α : Type}
    {more : c.Answer → Steps α} {result : Option (Except String α)}
    (alone : Alone (Files.perform umask) OnDisk (sys c context >>= more) s result s')
    (works : ∀ choice, OnDisk c choice → ∃ n, choice = .works n)
    (answers : ∀ n, Files.perform umask (.works n) c s = (some a, s)) :
    result = none ∧ s' = s ∨ Alone (Files.perform umask) OnDisk (more a) s result s' := by
  rcases alone_bind alone with ⟨cut, none⟩ | ⟨e, failed, -⟩ | ⟨a', s₁, is, rest⟩
  · exact Or.inl ⟨none, (alone_answered cut works answers).1⟩
  · rcases (alone_answered failed works answers).2 with is | is <;> cases is
  · obtain ⟨rfl, is | is⟩ := alone_answered is works answers
    · cases is
    · cases is
      exact Or.inr rest

theorem alone_enforceKeyPermissions {result : Option (Except String Unit)}
    (found : s.keyFile = some f)
    (alone : Alone (Files.perform umask) OnDisk (enforceKeyPermissions dataDir) s result s') :
    s'.disk = s.disk ∧ (result = none ∨ result = some (.ok ())) := by
  have stat (n : Nat) : Files.perform umask (.works n) .statKey s = (some f.mode, s) := by
    rw [Files.perform, found]
    rfl
  rcases alone_after_look alone (fun _ may => may) stat with ⟨rfl, rfl⟩ | rest
  · exact ⟨rfl, Or.inl rfl⟩
  split_ifs at rest
  · obtain ⟨rfl, rfl⟩ := alone_pure rest
    exact ⟨rfl, Or.inr rfl⟩
  · obtain ⟨i, key⟩ : ∃ i, s.key = some i := by
      cases key : s.key with
      | none =>
        rw [Files.keyFile, key] at found
        cases found
      | some i => exact ⟨i, rfl⟩
    rcases alone_sys rest fun _ may => may with ⟨rfl, rfl⟩ | ⟨n, now, is⟩
    · exact ⟨rfl, Or.inl rfl⟩
    · rw [Files.perform, key] at now is
      exact ⟨now ▸ disk_setMode i keyMode, Or.inr is⟩

variable {Key ServerConfig : Type} {tls : Tls Key ServerConfig} {sha256 : Sha256}

/-- A load leaves the texts, and reads them. -/
theorem alone_loadFromFiles {certPem keyPem : List Char}
    {result : Option (Except String CertificateManager)}
    (disk : s.disk = ⟨some certPem, some keyPem⟩)
    (alone : Alone (Files.perform umask) OnDisk (loadFromFiles dataDir tls sha256) s result s') :
    s'.disk = s.disk ∧
      (result = none ∨ result = some (Crypto.loadFromFiles tls sha256 certPem keyPem)) := by
  have cert (n : Nat) : Files.perform umask (.works n) .readCert s = (some certPem, s) := by
    rw [Files.perform, show s.cert = some certPem from congrArg Disk.cert disk]
  obtain ⟨f, found, -⟩ := Option.map_eq_some_iff.mp (congrArg Disk.key disk)
  rcases alone_after_look alone (fun _ may => may) cert with ⟨rfl, rfl⟩ | rest
  · exact ⟨rfl, Or.inl rfl⟩
  rcases alone_bind rest with ⟨cut, rfl⟩ | ⟨e, failed, rfl⟩ | ⟨_, s₁, is, rest⟩
  · exact ⟨(alone_enforceKeyPermissions found cut).1, Or.inl rfl⟩
  · rcases (alone_enforceKeyPermissions found failed).2 with is | is <;> cases is
  have same : s₁.disk = s.disk := (alone_enforceKeyPermissions found is).1
  have key (n : Nat) : Files.perform umask (.works n) .readKey s₁ = (some keyPem, s₁) := by
    rw [Files.perform, show s₁.keyFile.map KeyFile.content = some keyPem from
      congrArg Disk.key (same.trans disk)]
  rcases alone_after_look rest (fun _ may => may) key with ⟨rfl, rfl⟩ | rest
  · exact ⟨same, Or.inl rfl⟩
  · obtain ⟨rfl, rfl⟩ := alone_lift rest
    exact ⟨same, Or.inr rfl⟩

/-- The key file has this number and this text. -/
def Has (fd : Nat) (content : List Char) (s : Files) : Prop :=
  s.key = some fd ∧ ∃ f, s.files[fd]? = some f ∧ f.content = content

variable {content : List Char}

theorem Has.disk (has : Has fd content s) : s.disk = ⟨s.cert, some content⟩ := by
  obtain ⟨key, f, found, is⟩ := has
  rw [Files.disk, keyFile_of_key key, found, Option.map_some, is]

theorem has_openKey (named : s.Named) (umask mode : UInt32) :
    Has (s.openKey umask mode).1 [] (s.openKey umask mode).2 ∧
      (s.openKey umask mode).2.cert = s.cert := by
  obtain ⟨key, empty⟩ := openKey_spec s umask mode
  have inside : (s.openKey umask mode).1 < (s.openKey umask mode).2.files.length := by
    rw [Files.openKey]
    cases key : s.key with
    | none =>
      rw [List.length_append]
      exact Nat.lt_succ_self _
    | some i =>
      show i < (s.files.modify i _).length
      rw [List.length_modify]
      exact named i key
  refine ⟨⟨key, _, List.getElem?_eq_getElem inside,
    empty _ (List.getElem?_eq_getElem inside)⟩, ?_⟩
  rw [Files.openKey]
  split <;> rfl

theorem Has.setMode (has : Has fd content s) (mode : UInt32) :
    Has fd content (s.setMode fd mode) := by
  obtain ⟨key, f, found, is⟩ := has
  refine ⟨key, { f with mode := mode }, ?_, is⟩
  rw [getElem?_setMode, found]
  exact congrArg some (if_pos rfl)

theorem Has.append (has : Has fd content s) (more : List Char) :
    Has fd (content ++ more) (s.setContent fd fun old => old ++ more) := by
  obtain ⟨key, f, found, is⟩ := has
  refine ⟨key, { f with content := f.content ++ more }, ?_, congrArg (· ++ more) is⟩
  rw [getElem?_setContent, found]
  exact congrArg some (if_pos rfl)

theorem Has.inside (has : Has fd content s) : fd < s.files.length := by
  obtain ⟨-, f, found, -⟩ := has
  exact (List.getElem?_eq_some_iff.mp found).1

/-- What `open_private_file` comes to: nothing, an empty file, or a file to write to. -/
theorem alone_openPrivateFile (named : s.Named) {result : Option (Except String Nat)}
    (alone : Alone (Files.perform umask) OnDisk (openPrivateFile dataDir) s result s') :
    s'.cert = s.cert ∧
      (s'.disk = s.disk ∧
          (result = none ∨ result = some (.error (DiskCall.openKey.error dataDir))) ∨
        (∃ fd, Has fd [] s' ∧ (result = none ∨ result = some (.ok fd)))) := by
  rcases alone_bind alone with ⟨cut, rfl⟩ | ⟨e, failed, rfl⟩ | ⟨fd, s₁, is, rest⟩
  · rcases alone_attempt cut with ⟨-, rfl⟩ | ⟨choice, -, -, is⟩
    · exact ⟨rfl, Or.inl ⟨rfl, Or.inl rfl⟩⟩
    · cases is
  · rcases alone_attempt failed with ⟨is, -⟩ | ⟨choice, -, now, is⟩
    · cases is
    · cases choice with
      | fails left =>
        cases is
        exact ⟨congrArg Files.cert now, Or.inl ⟨congrArg Files.disk now, Or.inr rfl⟩⟩
      | works n => cases is
  · rcases alone_attempt is with ⟨is, -⟩ | ⟨choice, -, now, is⟩
    · cases is
    cases choice with
    | fails left => cases is
    | works n =>
      cases is
      obtain ⟨has, cert⟩ := has_openKey named umask keyMode
      rw [show s₁ = (s.openKey umask keyMode).2 from now] at rest
      rcases alone_bind rest with ⟨cut, rfl⟩ | ⟨e, failed, rfl⟩ | ⟨_, s₂, is, rest⟩
      · rcases alone_sys cut fun _ may => may with ⟨-, rfl⟩ | ⟨n, -, is⟩
        · exact ⟨cert, Or.inr ⟨_, has, Or.inl rfl⟩⟩
        · cases is
      · rcases alone_sys failed fun _ may => may with ⟨is, -⟩ | ⟨n, -, is⟩
        · cases is
        · rw [Files.perform, if_pos has.inside] at is
          cases is
      · rcases alone_sys is fun _ may => may with ⟨is, -⟩ | ⟨n, now, -⟩
        · cases is
        · rw [Files.perform, if_pos has.inside] at now
          obtain ⟨rfl, rfl⟩ := alone_pure rest
          rw [now]
          exact ⟨cert, Or.inr ⟨_, has.setMode keyMode, Or.inr rfl⟩⟩

/-- What `write_all` comes to: a part of the text, all of it if it succeeds. -/
theorem alone_writeAll (fuel : Nat) (text : List Char) (enough : text.length ≤ fuel)
    (has : Has fd content s) {result : Option (Except String Unit)}
    (alone : Alone (Files.perform umask) OnDisk (writeAll dataDir fd fuel text) s result s') :
    ∃ k, Has fd (content ++ text.take k) s' ∧ s'.cert = s.cert ∧
      (result = none ∨ result = some (.error (DiskCall.writeKey.error dataDir)) ∨
        result = some (.ok ()) ∧ text.take k = text) := by
  have nothing : Has fd (content ++ text.take 0) s := by
    rw [List.take_zero, List.append_nil]
    exact has
  induction fuel generalizing text content s with
  | zero =>
    obtain ⟨rfl, rfl⟩ := alone_pure alone
    refine ⟨0, nothing, rfl, Or.inr (Or.inr ⟨rfl, ?_⟩)⟩
    rw [List.length_eq_zero_iff.mp (Nat.le_zero.mp enough), List.take_zero]
  | succ fuel ih =>
    rw [writeAll] at alone
    split_ifs at alone with empty
    · obtain ⟨rfl, rfl⟩ := alone_pure alone
      refine ⟨0, nothing, rfl, Or.inr (Or.inr ⟨rfl, ?_⟩)⟩
      rw [empty, List.take_zero]
    rcases alone_bind alone with ⟨cut, rfl⟩ | ⟨e, failed, rfl⟩ | ⟨n, s₁, is, rest⟩
    · rcases alone_attempt cut with ⟨-, rfl⟩ | ⟨choice, -, -, is⟩
      · exact ⟨0, nothing, rfl, Or.inl rfl⟩
      · cases is
    · rcases alone_attempt failed with ⟨is, -⟩ | ⟨choice, -, now, is⟩
      · cases is
      cases choice with
      | fails left =>
        cases is
        rw [now]
        exact ⟨0, nothing, rfl, Or.inr (Or.inl rfl)⟩
      | works n =>
        rw [Files.perform, if_pos has.inside] at is
        cases is
    · rcases alone_attempt is with ⟨is, -⟩ | ⟨choice, -, now, is⟩
      · cases is
      cases choice with
      | fails left => cases is
      | works j =>
        rw [Files.perform, if_pos has.inside] at now is
        cases is
        rw [show s₁ = s.setContent fd fun old => old ++ text.take j from now] at rest
        have more : Has fd (content ++ text.take (min j text.length))
            (s.setContent fd fun old => old ++ text.take j) := by
          rw [← List.take_eq_take_min]
          exact has.append _
        split_ifs at rest with none
        · obtain ⟨rfl, rfl⟩ := alone_lift rest
          exact ⟨_, more, rfl, Or.inr (Or.inl rfl)⟩
        · have shorter : (text.drop (min j text.length)).length ≤ fuel := by
            rw [List.length_drop]
            have positive : 0 < min j text.length := Nat.pos_of_ne_zero none
            omega
          obtain ⟨k, has', cert, outcome⟩ := ih _ shorter more rest (by
            rw [List.take_zero, List.append_nil]
            exact more)
          refine ⟨min j text.length + k, ?_, cert, outcome.imp_right fun is => is.imp_right ?_⟩
          · rw [List.append_assoc, ← List.take_add] at has'
            exact has'
          · rintro ⟨ok, whole⟩
            refine ⟨ok, ?_⟩
            rw [List.take_add, whole, List.take_append_drop]

/-- A write of the key that is cut short. -/
theorem saveToFiles_cut (generated : Generated) {call : DiskCall}
    (late : call ≠ .createDataDir ∧ call ≠ .writeCert) (crash : Bool) (left : Left) (disk : Disk) :
    generated.saveToFiles dataDir
        (some ⟨call, crash, .cut generated.certPem.length, left⟩) disk =
      (⟨some generated.certPem, left.of disk.key generated.keyPem⟩,
        if crash then none else some (.error (call.error dataDir))) := by
  have cert : Left.of (.cut generated.certPem.length) disk.cert generated.certPem =
      some generated.certPem := by
    rw [Left.of, List.take_length]
  cases call with
  | createDataDir => exact absurd rfl late.1
  | writeCert => exact absurd rfl late.2
  | _ => cases crash <;> simp [Generated.saveToFiles, Fault.leaves, Fault.returns, cert]

/-- What `write_key_file` comes to, with the certificate in place. -/
theorem alone_writeKeyFile (named : s.Named) (generated : Generated) (old : Option (List Char))
    (cert : s.cert = some generated.certPem) {result : Option (Except String Unit)}
    (alone : Alone (Files.perform umask) OnDisk (writeKeyFile dataDir generated.keyPem) s result
      s') :
    ∃ fault, generated.saveToFiles dataDir fault ⟨old, s.keyFile.map KeyFile.content⟩ =
      (s'.disk, result) := by
  -- Each outcome has a call and a part of the key behind it.
  have saved (call : DiskCall) (late : call ≠ .createDataDir ∧ call ≠ .writeCert) (crash : Bool)
      (left : Left) {s' : Files} (certSame : s'.cert = s.cert)
      (key : s'.keyFile.map KeyFile.content =
        left.of (s.keyFile.map KeyFile.content) generated.keyPem) :
      ∃ fault, generated.saveToFiles dataDir fault ⟨old, s.keyFile.map KeyFile.content⟩ =
        (s'.disk, if crash then none else some (.error (call.error dataDir))) := by
    refine ⟨_, (saveToFiles_cut generated late crash left _).trans ?_⟩
    rw [Files.disk, certSame, cert, key]
  have key_of_has {fd : Nat} {text : List Char} {s' : Files} (has : Has fd text s') :
      s'.keyFile.map KeyFile.content = some text := congrArg Disk.key has.disk
  rcases alone_bind alone with ⟨cut, rfl⟩ | ⟨e, failed, rfl⟩ | ⟨fd, s₁, is, rest⟩
  · obtain ⟨certSame, ⟨same, -⟩ | ⟨fd, has, -⟩⟩ := alone_openPrivateFile named cut
    · exact saved .openKey ⟨nofun, nofun⟩ true .kept certSame (congrArg Disk.key same)
    · exact saved .writeKey ⟨nofun, nofun⟩ true (.cut 0) certSame (key_of_has has)
  · obtain ⟨certSame, ⟨same, is | is⟩ | ⟨fd, -, is | is⟩⟩ := alone_openPrivateFile named failed
    · cases is
    · cases is
      exact saved .openKey ⟨nofun, nofun⟩ false .kept certSame (congrArg Disk.key same)
    · cases is
    · cases is
  obtain ⟨certSame, ⟨-, is | is⟩ | ⟨fd, has, is | is⟩⟩ := alone_openPrivateFile named is
  · cases is
  · cases is
  · cases is
  cases is
  rcases alone_bind rest with ⟨cut, rfl⟩ | ⟨e, failed, rfl⟩ | ⟨_, s₂, is, rest⟩
  · obtain ⟨k, has', certSame', -⟩ := alone_writeAll _ _ (Nat.le_refl _) has cut
    exact saved .writeKey ⟨nofun, nofun⟩ true (.cut k) (certSame'.trans certSame)
      (key_of_has has')
  · obtain ⟨k, has', certSame', is | is | ⟨is, -⟩⟩ :=
      alone_writeAll _ _ (Nat.le_refl _) has failed
    · cases is
    · cases is
      exact saved .writeKey ⟨nofun, nofun⟩ false (.cut k) (certSame'.trans certSame)
        (key_of_has has')
    · cases is
  obtain ⟨k, has', certSame', is | is | ⟨-, whole⟩⟩ := alone_writeAll _ _ (Nat.le_refl _) has is
  · cases is
  · cases is
  rcases alone_attempt rest with ⟨rfl, rfl⟩ | ⟨choice, -, now, rfl⟩
  · exact saved .syncKey ⟨nofun, nofun⟩ true (.cut k) (certSame'.trans certSame)
      (key_of_has has')
  cases choice with
  | fails left =>
    rw [show s' = s₂ from now]
    exact saved .syncKey ⟨nofun, nofun⟩ false (.cut k) (certSame'.trans certSame)
      (key_of_has has')
  | works n =>
    refine ⟨none, ?_⟩
    rw [show s' = s₂ from now, has'.disk, certSame'.trans certSame, cert, List.nil_append, whole]
    rfl

/-- What `save_to_files` comes to. -/
theorem alone_saveToFiles (named : s.Named) (generated : Generated)
    {result : Option (Except String Unit)}
    (alone : Alone (Files.perform umask) OnDisk (saveToFiles dataDir generated) s result s') :
    ∃ fault, generated.saveToFiles dataDir fault s.disk = (s'.disk, result) := by
  rcases alone_bind alone with ⟨cut, rfl⟩ | ⟨e, failed, rfl⟩ | ⟨_, s₁, is, rest⟩
  · rcases alone_attempt cut with ⟨-, rfl⟩ | ⟨choice, -, -, is⟩
    · exact ⟨some ⟨.createDataDir, true, .kept, .kept⟩, rfl⟩
    · cases is
  · rcases alone_attempt failed with ⟨is, -⟩ | ⟨choice, -, now, is⟩
    · cases is
    cases choice with
    | fails left =>
      cases is
      rw [now]
      exact ⟨some ⟨.writeCert, false, left, .kept⟩, rfl⟩
    | works n => cases is
  · rcases alone_attempt is with ⟨is, -⟩ | ⟨choice, -, now, is⟩
    · cases is
    cases choice with
    | fails left => cases is
    | works n =>
      rw [show s₁ = { s with cert := some generated.certPem } from now] at rest
      exact alone_writeKeyFile (s := { s with cert := some generated.certPem }) named generated
        s.cert rfl rest

/-- Launches that save. -/
theorem loadOrGenerate_of_missing (generated : Generated) (fault : Option Fault) {disk : Disk}
    (missing : disk.cert = none ∨ disk.key = none) :
    Crypto.loadOrGenerate tls sha256 dataDir generated fault disk =
      ((generated.saveToFiles dataDir fault disk).1,
        (generated.saveToFiles dataDir fault disk).2.map fun result =>
          result.map fun _ => generated.manager sha256) := by
  rw [Crypto.loadOrGenerate]
  cases filtered : fault.filter fun fault => fault.call = .createDataDir with
  | some early =>
    obtain ⟨rfl, is⟩ := Option.filter_eq_some_iff.mp filtered
    have call : early.call = .createDataDir := of_decide_eq_true is
    rw [Generated.saveToFiles]
    dsimp only
    rw [Fault.leaves, call, Fault.returns, Fault.returns]
    cases early.crash <;> rfl
  | none =>
    rcases missing with none | none
    · rw [none]
    · rw [none]
      cases disk.cert <;> rfl

/-- Whether to load is decided by the two files. -/
theorem alone_bothExist {result : Option (Except String Bool)}
    (alone : Alone (Files.perform umask) OnDisk bothExist s result s') :
    s' = s ∧ (result = none ∨ result = some (.ok (s.cert.isSome && s.key.isSome))) := by
  rcases alone_bind alone with ⟨cut, rfl⟩ | ⟨e, failed, rfl⟩ | ⟨certExists, s₁, is, rest⟩
  · rcases alone_try cut with ⟨-, rfl⟩ | ⟨choice, -, -, is⟩
    · exact ⟨rfl, Or.inl rfl⟩
    · cases is
  · rcases alone_try failed with ⟨is, -⟩ | ⟨choice, -, -, is⟩ <;> cases is
  rcases alone_try is with ⟨is, -⟩ | ⟨choice, ⟨n, rfl⟩, now, is⟩
  · cases is
  cases is
  rw [show s₁ = s from now] at rest
  replace rest : Alone (Files.perform umask) OnDisk
    (if (some s.cert.isSome).getD false then _ else _) s result s' := rest
  cases cert : s.cert.isSome with
  | false =>
    rw [cert] at rest
    obtain ⟨rfl, rfl⟩ := alone_pure rest
    exact ⟨rfl, Or.inr rfl⟩
  | true =>
    rw [cert, if_pos (show (some true).getD false = true from rfl)] at rest
    rcases alone_bind rest with ⟨cut, rfl⟩ | ⟨e, failed, rfl⟩ | ⟨keyExists, s₂, is, rest⟩
    · rcases alone_try cut with ⟨-, rfl⟩ | ⟨choice, -, -, is⟩
      · exact ⟨rfl, Or.inl rfl⟩
      · cases is
    · rcases alone_try failed with ⟨is, -⟩ | ⟨choice, -, -, is⟩ <;> cases is
    rcases alone_try is with ⟨is, -⟩ | ⟨choice, ⟨n, rfl⟩, now, is⟩
    · cases is
    cases is
    obtain ⟨rfl, rfl⟩ := alone_pure rest
    exact ⟨now, Or.inr rfl⟩

end Pieces

end OpenPlay.Crypto.KeyFile
