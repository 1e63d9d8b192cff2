import PlayServer.Config.Basic
import PlayServer.Proofs.Text.Pieces
import PlayServer.Proofs.Text.Trim

/-!
# Configurations that are loaded

The ranges of the settings are stated twice, once where variables are read and once where a
configuration is checked. `Setting.Reads` is what reading one variable can come to. Every number of
a loaded configuration is one such reading (`load_eq`, `get_load`), and every warning names the
variable it is about, so that the warnings of one variable can be told from the others
(`filter_subject_load`). The readings keep the ranges, `inRange_load`, and the ranges leave open
only one thing that the check asks for, that the ports differ: `InRange.fault?_eq`.
-/

namespace PlayServer

/-- Whole seconds are kept. -/
theorem Duration.seconds_ofSeconds (n : Nat) : (ofSeconds n).seconds = n := by
  simp [ofSeconds, ofParts, seconds, nanosPerSecond]

namespace Setting

/-- A text spells a number that fits the type of a setting, with white space around it or none. -/
def Spells (s : Setting) (raw : String) (n : Nat) : Prop :=
  (∃ numeral, Text.Numeral numeral n ∧ Text.Padded numeral raw.toList) ∧ n < s.bound

/-- What comes of a variable: the number that the setting gets, and the warnings. -/
inductive Reads (s : Setting) (default : Nat) : Option String → Nat → List String → Prop where
  /-- The variable is not there. -/
  | absent : Reads s default none default []
  /-- Its text spells a number in the range of the setting. -/
  | accepted (raw : String) (n : Nat) (spelled : s.Spells raw n) (low : s.low ≤ n)
    (high : n ≤ s.high) : Reads s default (some raw) n []
  /-- Its text spells no number, or none that fits. -/
  | invalid (raw : String) (h : ∀ n, ¬s.Spells raw n) :
    Reads s default (some raw) default [s!"Invalid {s.key} '{raw}', using default"]
  /-- Its text spells a number outside the range. -/
  | outside (raw : String) (n : Nat) (spelled : s.Spells raw n) (h : ¬(s.low ≤ n ∧ n ≤ s.high)) :
    Reads s default (some raw) default [s!"{s.key} {s.rule}, using default"]

/-- Reading a variable comes to one of these. -/
theorem reads_read (s : Setting) (value : Option String) (default : Nat) :
    s.Reads default value (s.read value default).1 (s.read value default).2 := by
  unfold read
  cases value with
  | none => exact .absent
  | some raw =>
    dsimp only
    cases hread : Text.unsigned? s.bound (Text.trim raw) with
    | none =>
      refine .invalid raw fun n hspelled => ?_
      rw [Text.unsigned?_trim_eq_some_iff.mpr hspelled] at hread
      cases hread
    | some n =>
      have hspelled : s.Spells raw n := Text.unsigned?_trim_eq_some_iff.mp hread
      dsimp only
      split
      · next hrange =>
        obtain ⟨hlow, hhigh⟩ : s.low ≤ n ∧ n ≤ s.high := by simpa using hrange
        exact .accepted raw n hspelled hlow hhigh
      · next hrange => exact .outside raw n hspelled (by simpa using hrange)

/-- A setting whose default lies in its range lies in it whatever is read. -/
theorem Reads.inRange {s : Setting} {default n : Nat} {value : Option String}
    {warnings : List String} (h : s.Reads default value n warnings)
    (hdefault : s.low ≤ default ∧ default ≤ s.high) : s.low ≤ n ∧ n ≤ s.high := by
  cases h with
  | absent => exact hdefault
  | accepted _ _ _ low high => exact ⟨low, high⟩
  | invalid => exact hdefault
  | outside => exact hdefault

end Setting

namespace Config

/-- The fields of a configuration that are numbers. -/
inductive NumericField where
  | gatewayPort
  | gamePort
  | adminPort
  | maxConnectionsPerIp
  | maxSessionPlayers
  | maxSessions
  | tickRate
  | idleTimeout
  deriving DecidableEq, Repr

namespace NumericField

/-- The numeric fields in the order in which their variables are read. -/
def all : List NumericField :=
  [gatewayPort, gamePort, adminPort, maxConnectionsPerIp, maxSessionPlayers, maxSessions, tickRate,
    idleTimeout]

/-- The terms on which a field is read: the name of its variable, the bound of its type, its range
and the rule that a warning states. -/
def terms : NumericField → Setting
  | gatewayPort => ⟨"GATEWAY_PORT", UInt16.size, 1, UInt16.size - 1, "must be > 0"⟩
  | gamePort => ⟨"GAME_PORT", UInt16.size, 1, UInt16.size - 1, "must be > 0"⟩
  | adminPort => ⟨"ADMIN_PORT", UInt16.size, 1, UInt16.size - 1, "must be > 0"⟩
  | maxConnectionsPerIp => ⟨"MAX_CONNECTIONS_PER_IP", UInt64.size, 1, 10000, "must be 1-10000"⟩
  | maxSessionPlayers => ⟨"MAX_SESSION_PLAYERS", UInt64.size, 1, 64, "must be 1-64"⟩
  | maxSessions => ⟨"MAX_SESSIONS", UInt64.size, 1, 100000, "must be 1-100000"⟩
  | tickRate => ⟨"TICK_RATE", UInt32.size, 1, 240, "must be 1-240"⟩
  | idleTimeout => ⟨"IDLE_TIMEOUT_SECS", UInt64.size, 1, UInt64.size - 1, "must be > 0"⟩

/-- The setting of a field. -/
def setting : NumericField → Setting
  | gatewayPort => .gatewayPort
  | gamePort => .gamePort
  | adminPort => .adminPort
  | maxConnectionsPerIp => .maxConnectionsPerIp
  | maxSessionPlayers => .maxSessionPlayers
  | maxSessions => .maxSessions
  | tickRate => .tickRate
  | idleTimeout => .idleTimeout

/-- The number in a field; that of the timeout is its whole seconds. -/
def get (c : Config) : NumericField → Nat
  | gatewayPort => c.gatewayPort.toNat
  | gamePort => c.gamePort.toNat
  | adminPort => c.adminPort.toNat
  | maxConnectionsPerIp => c.maxConnectionsPerIp
  | maxSessionPlayers => c.maxSessionPlayers
  | maxSessions => c.maxSessions
  | tickRate => c.tickRate.toNat
  | idleTimeout => c.idleTimeout.seconds

/-- The settings are the terms. -/
theorem setting_eq (field : NumericField) : field.setting = field.terms := by
  cases field <;> decide

/-- Every default lies in the range of its own setting. -/
theorem inRange_default (field : NumericField) :
    field.setting.low ≤ field.get {} ∧ field.get {} ≤ field.setting.high := by
  cases field <;> decide

/-- The range of a setting lies within the type of its field. -/
theorem high_lt_bound (field : NumericField) : field.setting.high < field.setting.bound := by
  cases field <;> decide

end NumericField

/-- What is read for a field. -/
def readField (lookup : String → Option String) (field : NumericField) : Nat × List String :=
  field.setting.read (lookup field.setting.key) (field.get {})

/-- What is read for a field lies in its range. -/
theorem inRange_readField (lookup : String → Option String) (field : NumericField) :
    field.setting.low ≤ (readField lookup field).1 ∧
      (readField lookup field).1 ≤ field.setting.high :=
  (field.setting.reads_read _ _).inRange field.inRange_default

/-- What is read for the address. -/
def readAddress (lookup : String → Option String) : IpAddress × List String :=
  match lookup "BIND_ADDRESS" with
  | none => (({} : Config).bindAddress, [])
  | some raw =>
    match IpAddress.parse? raw with
    | some address => (address, [])
    | none => (({} : Config).bindAddress, [s!"Invalid BIND_ADDRESS '{raw}', using default"])

/-- What is read for the accounts to begin with. -/
def readSeeds (lookup : String → Option String) : List (String × String) × List String :=
  match lookup "SEED_ACCOUNTS" with
  | none => ([], [])
  | some raw => readSeedAccounts raw

/-- A configuration is put together from what is read for its fields. -/
theorem load_eq (lookup : String → Option String) :
    load lookup =
      ({ bindAddress := (readAddress lookup).1
         gatewayPort := UInt16.ofNat (readField lookup .gatewayPort).1
         gamePort := UInt16.ofNat (readField lookup .gamePort).1
         adminPort := UInt16.ofNat (readField lookup .adminPort).1
         maxConnectionsPerIp := (readField lookup .maxConnectionsPerIp).1
         maxSessionPlayers := (readField lookup .maxSessionPlayers).1
         maxSessions := (readField lookup .maxSessions).1
         tickRate := UInt32.ofNat (readField lookup .tickRate).1
         idleTimeout := .ofSeconds (readField lookup .idleTimeout).1
         auditLogPath := (lookup "AUDIT_LOG_PATH").filter fun path => !(Text.trim path).isEmpty
         seedAccounts := (readSeeds lookup).1 },
        (readAddress lookup).2 ++ (readField lookup .gatewayPort).2 ++
          (readField lookup .gamePort).2 ++ (readField lookup .adminPort).2 ++
          (readField lookup .maxConnectionsPerIp).2 ++ (readField lookup .maxSessionPlayers).2 ++
          (readField lookup .maxSessions).2 ++ (readField lookup .tickRate).2 ++
          (readField lookup .idleTimeout).2 ++ (readSeeds lookup).2) := by
  -- With the settings and defaults spelled alike on both sides nothing has to be computed.
  simp only [load, readField, NumericField.setting, NumericField.get]
  rfl

/-- The number in a field is the one that is read for it. -/
theorem get_load (lookup : String → Option String) (field : NumericField) :
    field.get (load lookup).1 = (readField lookup field).1 := by
  have hfits : (readField lookup field).1 < field.setting.bound :=
    Nat.lt_of_le_of_lt (inRange_readField lookup field).2 field.high_lt_bound
  rw [load_eq]
  cases field with
  | gatewayPort | gamePort | adminPort => exact UInt16.toNat_ofNat_of_lt' hfits
  | maxConnectionsPerIp | maxSessionPlayers | maxSessions => rfl
  | tickRate => exact UInt32.toNat_ofNat_of_lt' hfits
  | idleTimeout => exact Duration.seconds_ofSeconds _

/-- The first word of a warning, or the second if the first says that a value is invalid. -/
def subject (warning : String) : String :=
  match Text.splitAtChar ' ' warning with
  | [] => warning
  | first :: others => if first = "Invalid" then others.headD "" else first

/-- The subject of a warning that begins with a key. -/
theorem subject_append {key : String} (rest : String) (hkey : ' ' ∉ key.toList)
    (hne : key ≠ "Invalid") : subject (key ++ (String.singleton ' ' ++ rest)) = key := by
  rw [subject, Text.splitAtChar_append rest hkey]
  exact if_neg hne

/-- The subject of a warning that says that the value of a key is invalid. -/
theorem subject_invalid {key : String} (rest : String) (hkey : ' ' ∉ key.toList) :
    subject ("Invalid" ++ (String.singleton ' ' ++ (key ++ (String.singleton ' ' ++ rest)))) =
      key := by
  rw [subject, Text.splitAtChar_append _ (by decide), Text.splitAtChar_append rest hkey]
  exact if_pos rfl

/-- A reading warns of nothing but its own variable. -/
theorem subject_of_reads {s : Setting} {default n : Nat} {value : Option String}
    {warnings : List String} (h : s.Reads default value n warnings) (hkey : ' ' ∉ s.key.toList)
    (hne : s.key ≠ "Invalid") : ∀ warning ∈ warnings, subject warning = s.key := by
  cases h with
  | absent | accepted => simp
  | invalid raw =>
    have hwords : s!"Invalid {s.key} '{raw}', using default" = "Invalid" ++ (String.singleton ' ' ++
        (s.key ++ (String.singleton ' ' ++ s!"'{raw}', using default"))) :=
      String.toList_inj.mp (by simp [toString])
    rw [hwords, List.forall_mem_singleton]
    exact subject_invalid _ hkey
  | outside =>
    have hwords : s!"{s.key} {s.rule}, using default" =
        s.key ++ (String.singleton ' ' ++ s!"{s.rule}, using default") :=
      String.toList_inj.mp (by simp [toString])
    rw [hwords, List.forall_mem_singleton]
    exact subject_append _ hkey hne

/-- No key says that a value is invalid, and each is one word. -/
theorem NumericField.key_word (field : NumericField) :
    ' ' ∉ field.setting.key.toList ∧ field.setting.key ≠ "Invalid" := by
  cases field <;> decide

/-- No two fields are read from one variable. -/
theorem NumericField.filter_key_all (field : NumericField) :
    all.filter (·.setting.key = field.setting.key) = [field] := by
  cases field <;> decide

/-- No field is read from the variable of the address or from that of the accounts, and neither is
any warned of in their place. -/
theorem NumericField.key_ne (field : NumericField) :
    field.setting.key ≠ "BIND_ADDRESS" ∧ field.setting.key ≠ "Ignoring" := by
  cases field <;> decide

/-- Where each member of a list brings things about its own key, the things about a key are those
that the members with this key bring. -/
theorem filter_flatMap_of_key {ι α κ : Type} [DecidableEq κ] {key : ι → κ} {about : α → κ}
    {own : ι → List α} (hown : ∀ i, ∀ a ∈ own i, about a = key i) (k : κ) (is : List ι) :
    (is.flatMap own).filter (about · = k) = (is.filter (key · = k)).flatMap own := by
  induction is with
  | nil => rfl
  | cons i rest ih =>
    rw [List.flatMap_cons, List.filter_append, ih]
    by_cases hi : key i = k
    · have hmine : (own i).filter (about · = k) = own i :=
        List.filter_eq_self.mpr fun a ha => by simpa [hown i a ha] using hi
      rw [hmine, List.filter_cons_of_pos (by simpa using hi), List.flatMap_cons]
    · have hother : (own i).filter (about · = k) = [] :=
        List.filter_eq_nil_iff.mpr fun a ha => by simpa [hown i a ha] using hi
      rw [hother, List.filter_cons_of_neg (by simpa using hi), List.nil_append]

/-- The warnings about the address name its variable. -/
theorem subject_readAddress (lookup : String → Option String) :
    ∀ warning ∈ (readAddress lookup).2, subject warning = "BIND_ADDRESS" := by
  unfold readAddress
  split
  · simp
  · next raw _ =>
    split
    · simp
    · have hwords : s!"Invalid BIND_ADDRESS '{raw}', using default" =
          "Invalid" ++ (String.singleton ' ' ++
            ("BIND_ADDRESS" ++ (String.singleton ' ' ++ s!"'{raw}', using default"))) :=
        String.toList_inj.mp (by simp [toString])
      rw [hwords, List.forall_mem_singleton]
      exact subject_invalid _ (by decide)

/-- The warnings about the accounts name no variable that a number is read from. -/
theorem subject_readSeeds (lookup : String → Option String) :
    ∀ warning ∈ (readSeeds lookup).2, subject warning = "Ignoring" := by
  unfold readSeeds
  split
  · simp
  · intro warning hwarning
    obtain ⟨_, _, rfl⟩ := List.mem_map.mp hwarning
    have hkey : ' ' ∉ "Ignoring".toList := by decide
    exact subject_append "malformed SEED_ACCOUNTS entry" hkey (by decide)

/-- The warnings about a field are those that its own variable draws. -/
theorem filter_subject_load (lookup : String → Option String) (field : NumericField) :
    (load lookup).2.filter (subject · = field.setting.key) = (readField lookup field).2 := by
  have hload : (load lookup).2 = (readAddress lookup).2 ++
      (NumericField.all.flatMap fun field => (readField lookup field).2) ++
        (readSeeds lookup).2 := by
    simp [load_eq, NumericField.all]
  have hown (field : NumericField) :
      ∀ warning ∈ (readField lookup field).2, subject warning = field.setting.key :=
    subject_of_reads (field.setting.reads_read _ _) field.key_word.1 field.key_word.2
  have hbefore : (readAddress lookup).2.filter (subject · = field.setting.key) = [] :=
    List.filter_eq_nil_iff.mpr fun warning hwarning => by
      simpa [subject_readAddress lookup warning hwarning] using field.key_ne.1.symm
  have hafter : (readSeeds lookup).2.filter (subject · = field.setting.key) = [] :=
    List.filter_eq_nil_iff.mpr fun warning hwarning => by
      simpa [subject_readSeeds lookup warning hwarning] using field.key_ne.2.symm
  rw [hload, List.filter_append, List.filter_append, hbefore, hafter, filter_flatMap_of_key hown,
    NumericField.filter_key_all]
  simp

/-- The ranges of the numbers of a configuration; the timeout is a number of whole seconds. -/
structure InRange (c : Config) : Prop where
  gatewayPort : 1 ≤ c.gatewayPort
  gamePort : 1 ≤ c.gamePort
  adminPort : 1 ≤ c.adminPort
  maxConnectionsPerIp : 1 ≤ c.maxConnectionsPerIp ∧ c.maxConnectionsPerIp ≤ 10000
  maxSessionPlayers : 1 ≤ c.maxSessionPlayers ∧ c.maxSessionPlayers ≤ 64
  maxSessions : 1 ≤ c.maxSessions ∧ c.maxSessions ≤ 100000
  tickRate : 1 ≤ c.tickRate ∧ c.tickRate ≤ 240
  idleTimeout : 1 ≤ c.idleTimeout.seconds ∧ c.idleTimeout = .ofSeconds c.idleTimeout.seconds

/-- The ports of a configuration are pairwise different. -/
def DistinctPorts (c : Config) : Prop :=
  c.gatewayPort ≠ c.gamePort ∧ c.gatewayPort ≠ c.adminPort ∧ c.gamePort ≠ c.adminPort

instance (c : Config) : Decidable c.DistinctPorts := inferInstanceAs (Decidable (_ ∧ _))

/-- A loaded configuration lies in the ranges. -/
theorem inRange_load (lookup : String → Option String) : (load lookup).1.InRange := by
  have hrange (field : NumericField) : field.setting.low ≤ field.get (load lookup).1 ∧
      field.get (load lookup).1 ≤ field.setting.high := by
    rw [get_load]
    exact inRange_readField lookup field
  have hwhole : (load lookup).1.idleTimeout = .ofSeconds (load lookup).1.idleTimeout.seconds := by
    rw [load_eq, Duration.seconds_ofSeconds]
  exact {
    gatewayPort := UInt16.le_iff_toNat_le.mpr (hrange .gatewayPort).1
    gamePort := UInt16.le_iff_toNat_le.mpr (hrange .gamePort).1
    adminPort := UInt16.le_iff_toNat_le.mpr (hrange .adminPort).1
    maxConnectionsPerIp := hrange .maxConnectionsPerIp
    maxSessionPlayers := hrange .maxSessionPlayers
    maxSessions := hrange .maxSessions
    tickRate := (hrange .tickRate).imp UInt32.le_iff_toNat_le.mpr UInt32.le_iff_toNat_le.mpr
    idleTimeout := ⟨(hrange .idleTimeout).1, hwhole⟩ }

/-- Where the ranges are kept, a configuration can have no other fault than equal ports. -/
theorem InRange.fault?_eq {c : Config} (h : c.InRange) :
    c.fault? = if c.DistinctPorts then none else some .portsEqual := by
  have hport {port : UInt16} (hport : 1 ≤ port) : port ≠ 0 := by
    rintro rfl
    contradiction
  have hrate : (c.tickRate < 1 || 240 < c.tickRate : Bool) = false :=
    Bool.or_eq_false_iff.mpr ⟨decide_eq_false (UInt32.not_lt.mpr h.tickRate.1),
      decide_eq_false (UInt32.not_lt.mpr h.tickRate.2)⟩
  have hconnections := Nat.one_le_iff_ne_zero.mp h.maxConnectionsPerIp.1
  have hplayers := Nat.one_le_iff_ne_zero.mp h.maxSessionPlayers.1
  have hsessions := Nat.one_le_iff_ne_zero.mp h.maxSessions.1
  have hidle : c.idleTimeout ≠ .zero := by
    intro hzero
    simpa [hzero, Duration.zero, Duration.seconds] using h.idleTimeout.1
  simp only [fault?, hport h.gatewayPort, hport h.gamePort, hport h.adminPort, hconnections,
    hplayers, hsessions, hidle, hrate]
  by_cases hdiffer : c.DistinctPorts
  · obtain ⟨hgame, hadmin, hlast⟩ := id hdiffer
    simp [hdiffer, hgame, hadmin, hlast]
  · have hequal : c.gatewayPort = c.gamePort ∨ c.gatewayPort = c.adminPort ∨
        c.gamePort = c.adminPort := by
      simpa [DistinctPorts, imp_iff_not_or] using hdiffer
    simp [hdiffer, hequal, or_assoc]

/-- Whatever the variables are, every number of the configuration that is loaded comes from its own
variable, as do the warnings about it. The numbers lie in their ranges, and the check accepts the
configuration if the ports differ; if not, this is the fault it finds. -/
theorem load_sound (lookup : String → Option String) :
    (∀ field : NumericField,
      field.terms.Reads (field.get {}) (lookup field.terms.key) (field.get (load lookup).1)
        ((load lookup).2.filter (subject · = field.terms.key))) ∧
    (load lookup).1.InRange ∧
    (load lookup).1.fault? = if (load lookup).1.DistinctPorts then none else some .portsEqual := by
  refine ⟨fun field => ?_, inRange_load lookup, (inRange_load lookup).fault?_eq⟩
  rw [← field.setting_eq, get_load, filter_subject_load]
  exact field.setting.reads_read _ _

/-- A rate that is too high leaves the default, whatever sign and white space it is written with. -/
example : load (fun key => if key = "TICK_RATE" then some " +0241\n" else none) =
    ({}, ["TICK_RATE must be 1-240, using default"]) := by decide

end Config

end PlayServer
