/-
Settings from environment variables. A variable that is unset, or whose bytes are no UTF-8, leaves what is
usual. A number of seconds is what its numeral denotes, with blanks around it or without, and a name is what is
set, blanks included (`settings_are_read_exactly`). Each setting comes from its own variable, and
of two variables that give nothing that of the interval is reported.

How a variable is read hangs on what its text means, so one lemma covers numbers and addresses
(`read?_cases`).
-/
import ManagedDatabase.Configuration
import ManagedDatabase.Proofs.Text.Base64
import ManagedDatabase.Proofs.Text.Numeral
import Mathlib.Logic.ExistsUnique

namespace ManagedDatabase

namespace RawEnvironment

variable {α : Type} (raw : RawEnvironment) (key : String)

/-- A variable is set to a text. -/
def Holds (text : String) : Prop := raw key = some (Text.utf8 text)

/-- What a variable gives: what its text means, or what is usual if it is set to no text. -/
inductive Gives (usual : α) (means : String → α → Prop) : α → Prop
  | usual (unset : ∀ text, ¬ raw.Holds key text) : Gives usual means usual
  | text {text : String} {value : α} (held : raw.Holds key text) (meant : means text value) :
    Gives usual means value

end RawEnvironment

/-- A text means a number of seconds: it is a numeral of it, with blanks around it or without, and the
number has 64 bits. -/
def MeansSeconds (text : String) (n : Nat) : Prop :=
  ∃ core, Text.Padded core text.toList ∧ Text.Denotes core n ∧ n < Nat.pow 2 64

/-- A text means an address if it reads as one without the blanks around it. -/
def MeansAddress (text : String) (address : SocketAddress) : Prop :=
  SocketAddress.read? (String.ofList (Text.trim text.toList)) = some address

/-- The settings of sessions that some variables give. -/
structure SessionConfig.From (raw : RawEnvironment) (c : SessionConfig) : Prop where
  sqlTimeout : raw.Gives "KUBERLOGIC_SQL_TIMEOUT_SECS" 30 MeansSeconds c.sqlTimeout
  clusterDomain : raw.Gives "KUBERLOGIC_CLUSTER_DOMAIN" "cluster.local" Eq c.clusterDomain

/-- The settings of the watcher that some variables give. -/
structure WatcherConfig.From (raw : RawEnvironment) (c : WatcherConfig) : Prop where
  probeDatabase : raw.Gives "KUBERLOGIC_PROBE_DATABASE" "kuberlogic" Eq c.probeDatabase
  probeTable : raw.Gives "KUBERLOGIC_PROBE_TABLE" "kuberlogic_probe" Eq c.probeTable
  interval : raw.Gives "KUBERLOGIC_PROBE_INTERVAL_SECS" 60 MeansSeconds c.interval
  listenAddress : raw.Gives "KUBERLOGIC_LISTEN_ADDR" (.v4 [0, 0, 0, 0] 8080) MeansAddress c.listenAddress

namespace Environment

variable {α : Type} {raw : RawEnvironment} {key text : String} {usual : α} {means : String → α → Prop}

/-! ## One variable -/

theorem ofBytes_eq_some_iff : ofBytes raw key = some text ↔ raw.Holds key text := by
  rw [ofBytes, Option.bind_eq_some_iff, RawEnvironment.Holds]
  constructor
  · intro ⟨bytes, set, decoded⟩
    rw [set, Text.decodeUtf8_eq_some_iff.1 decoded]
  · intro held
    exact ⟨_, held, Text.decodeUtf8_eq_some_iff.2 rfl⟩

theorem ofBytes_eq_none_iff : ofBytes raw key = none ↔ ∀ text, ¬ raw.Holds key text := by
  simp only [← ofBytes_eq_some_iff]
  cases ofBytes raw key <;> simp

theorem gives_of_text (set : ofBytes raw key = some text) {value : α} :
    raw.Gives key usual means value ↔ means text value := by
  have held := ofBytes_eq_some_iff.1 set
  constructor
  · intro gives
    cases gives with
    | usual unset => exact absurd held (unset text)
    | text held' meant =>
      have same := set.symm.trans (ofBytes_eq_some_iff.2 held')
      exact Option.some.inj same ▸ meant
  · exact .text held

theorem gives_of_none (unset : ofBytes raw key = none) {value : α} :
    raw.Gives key usual means value ↔ value = usual := by
  have none := ofBytes_eq_none_iff.1 unset
  constructor
  · intro gives
    cases gives with
    | usual => rfl
    | text held => exact absurd held (none _)
  · intro same
    subst same
    exact .usual none

theorem gives_name_iff {usual value : String} :
    raw.Gives key usual Eq value ↔ value = (ofBytes raw key).getD usual := by
  cases set : ofBytes raw key with
  | none => rw [gives_of_none set, Option.getD_none]
  | some text => rw [gives_of_text set, Option.getD_some, eq_comm]

/-- Reading a variable comes to the one value that it gives, or it gives none and is reported. -/
theorem read?_cases {parse : List Char → Except String α}
    (reads : ∀ text value, parse (Text.trim text.toList) = .ok value ↔ means text value) (usual : α) :
    (∃ found, (ofBytes raw).read? key parse = .ok found ∧
      ∀ value, raw.Gives key usual means value ↔ value = found.getD usual) ∨
    ∃ reason, (ofBytes raw).read? key parse = .error (.illegalConfig key reason) ∧
      ∀ value, ¬ raw.Gives key usual means value := by
  unfold read?
  cases set : ofBytes raw key with
  | none => exact .inl ⟨none, rfl, fun value => gives_of_none set⟩
  | some text =>
    cases parsed : parse (Text.trim text.toList) with
    | ok found =>
      refine .inl ⟨some found, by simp only [parsed], fun value => ?_⟩
      rw [gives_of_text set, ← reads, parsed, Except.ok.injEq, Option.getD_some, eq_comm]
    | error reason =>
      refine .inr ⟨reason, by simp only [parsed], fun value => ?_⟩
      rw [gives_of_text set, ← reads, parsed]
      exact nofun

theorem parseSeconds_ok_iff (text : String) (n : Nat) :
    parseSeconds (Text.trim text.toList) = .ok n ↔ MeansSeconds text n := by
  have same : parseSeconds (Text.trim text.toList) = .ok n ↔
      Text.readNumeral (Nat.pow 2 64) (Text.trim text.toList) = .ok n := by
    unfold parseSeconds
    cases Text.readNumeral (Nat.pow 2 64) (Text.trim text.toList) <;> simp [Except.mapError]
  rw [same, Text.readNumeral_ok_iff]
  constructor
  · intro ⟨numeral, small⟩
    exact ⟨_, Text.padded_trim _, numeral, small⟩
  · intro ⟨core, padded, numeral, small⟩
    rw [numeral.trim padded]
    exact ⟨numeral, small⟩

theorem parseAddress_ok_iff (text : String) (address : SocketAddress) :
    parseAddress (Text.trim text.toList) = .ok address ↔ MeansAddress text address := by
  unfold parseAddress MeansAddress
  cases SocketAddress.read? (String.ofList (Text.trim text.toList)) <;> simp

/-- A text means one thing at most. -/
def Functional (means : String → α → Prop) : Prop := ∀ text a b, means text a → means text b → a = b

/-- A variable gives one value at most, and that hangs on nothing else. -/
theorem gives_same {raw' : RawEnvironment} {value value' : α} (functional : Functional means)
    (same : raw key = raw' key)
    (gives : raw.Gives key usual means value) (gives' : raw'.Gives key usual means value') :
    value = value' := by
  have decoded : ofBytes raw' key = ofBytes raw key := by rw [ofBytes, ofBytes, same]
  cases set : ofBytes raw key with
  | none =>
    rw [gives_of_none set] at gives
    rw [gives_of_none (decoded.trans set)] at gives'
    rw [gives, gives']
  | some text =>
    rw [gives_of_text set] at gives
    rw [gives_of_text (decoded.trans set)] at gives'
    exact functional text value value' gives gives'

theorem functional_seconds : Functional MeansSeconds := by
  intro text n m meant meant'
  have read := (parseSeconds_ok_iff text n).2 meant
  rw [(parseSeconds_ok_iff text m).2 meant'] at read
  exact (Except.ok.inj read).symm

theorem functional_address : Functional MeansAddress :=
  fun _ _ _ meant meant' => Option.some.inj (meant.symm.trans meant')

theorem functional_name : Functional (Eq : String → String → Prop) :=
  fun _ _ _ meant meant' => meant.symm.trans meant'

theorem read?_large {core : List Char} {n : Nat} (held : raw.Holds key text)
    (padded : Text.Padded core text.toList) (numeral : Text.Denotes core n) (large : Nat.pow 2 64 ≤ n) :
    (ofBytes raw).read? key parseSeconds =
      .error (.illegalConfig key "number too large to fit in target type") := by
  have refused : parseSeconds core = .error "number too large to fit in target type" := by
    rw [parseSeconds, Text.readNumeral_large numeral large]
    rfl
  simp only [read?, ofBytes_eq_some_iff.2 held, numeral.trim padded, refused]

/-! ## All settings -/

/-- Settings of sessions are those that the variables give, or the number of seconds is reported. -/
theorem session_cases (raw : RawEnvironment) :
    (∃ c, SessionConfig.ofEnvironment (ofBytes raw) = .ok c ∧ ∀ c' : SessionConfig, c'.From raw ↔ c' = c) ∨
    ∃ reason, SessionConfig.ofEnvironment (ofBytes raw) =
        .error (.illegalConfig "KUBERLOGIC_SQL_TIMEOUT_SECS" reason) ∧
      ∀ n, ¬ raw.Gives "KUBERLOGIC_SQL_TIMEOUT_SECS" 30 MeansSeconds n := by
  unfold SessionConfig.ofEnvironment
  obtain ⟨timeout, read, gives⟩ | ⟨reason, read, none⟩ :=
    @read?_cases _ raw "KUBERLOGIC_SQL_TIMEOUT_SECS" _ _ parseSeconds_ok_iff 30
  · rw [read]
    refine .inl ⟨_, rfl, fun c => ?_⟩
    constructor
    · intro ⟨seconds, domain⟩
      obtain ⟨sqlTimeout, clusterDomain⟩ := c
      rw [SessionConfig.mk.injEq]
      exact ⟨(gives _).1 seconds, gives_name_iff.1 domain⟩
    · intro same
      subst same
      exact ⟨(gives _).2 rfl, gives_name_iff.2 rfl⟩
  · rw [read]
    exact .inr ⟨reason, rfl, none⟩

/-- Settings of the watcher are those that the variables give, or one is reported, that of the interval
before that of the address. -/
theorem watcher_cases (raw : RawEnvironment) :
    (∃ c, WatcherConfig.ofEnvironment (ofBytes raw) = .ok c ∧ ∀ c' : WatcherConfig, c'.From raw ↔ c' = c) ∨
    (∃ reason, WatcherConfig.ofEnvironment (ofBytes raw) =
        .error (.illegalConfig "KUBERLOGIC_PROBE_INTERVAL_SECS" reason) ∧
      ∀ n, ¬ raw.Gives "KUBERLOGIC_PROBE_INTERVAL_SECS" 60 MeansSeconds n) ∨
    ∃ reason, WatcherConfig.ofEnvironment (ofBytes raw) =
        .error (.illegalConfig "KUBERLOGIC_LISTEN_ADDR" reason) ∧
      (∃ n, raw.Gives "KUBERLOGIC_PROBE_INTERVAL_SECS" 60 MeansSeconds n) ∧
      ∀ a, ¬ raw.Gives "KUBERLOGIC_LISTEN_ADDR" (.v4 [0, 0, 0, 0] 8080) MeansAddress a := by
  unfold WatcherConfig.ofEnvironment
  obtain ⟨interval, read, gives⟩ | ⟨reason, read, none⟩ :=
    @read?_cases _ raw "KUBERLOGIC_PROBE_INTERVAL_SECS" _ _ parseSeconds_ok_iff 60
  · rw [read]
    obtain ⟨address, read', gives'⟩ | ⟨reason, read', none⟩ :=
      @read?_cases _ raw "KUBERLOGIC_LISTEN_ADDR" _ _ parseAddress_ok_iff (.v4 [0, 0, 0, 0] 8080)
    · rw [read']
      refine .inl ⟨_, rfl, fun c => ?_⟩
      constructor
      · intro ⟨database, table, seconds, listen⟩
        obtain ⟨probeDatabase, probeTable, interval, listenAddress⟩ := c
        rw [WatcherConfig.mk.injEq]
        exact ⟨gives_name_iff.1 database, gives_name_iff.1 table, (gives _).1 seconds, (gives' _).1 listen⟩
      · intro same
        subst same
        exact ⟨gives_name_iff.2 rfl, gives_name_iff.2 rfl, (gives _).2 rfl, (gives' _).2 rfl⟩
    · rw [read']
      exact .inr (.inr ⟨reason, rfl, ⟨_, (gives _).2 rfl⟩, none⟩)
  · rw [read]
    exact .inr (.inl ⟨reason, rfl, none⟩)

theorem session_ok_iff (raw : RawEnvironment) (c : SessionConfig) :
    SessionConfig.ofEnvironment (ofBytes raw) = .ok c ↔ c.From raw := by
  obtain ⟨c', read, gives⟩ | ⟨reason, read, none⟩ := session_cases raw
  · rw [read, gives, Except.ok.injEq, eq_comm]
  · rw [read]
    exact ⟨nofun, fun all => absurd all.sqlTimeout (none _)⟩

theorem watcher_ok_iff (raw : RawEnvironment) (c : WatcherConfig) :
    WatcherConfig.ofEnvironment (ofBytes raw) = .ok c ↔ c.From raw := by
  obtain ⟨c', read, gives⟩ | ⟨reason, read, none⟩ | ⟨reason, read, -, none⟩ := watcher_cases raw
  · rw [read, gives, Except.ok.injEq, eq_comm]
  · rw [read]
    exact ⟨nofun, fun all => absurd all.interval (none _)⟩
  · rw [read]
    exact ⟨nofun, fun all => absurd all.listenAddress (none _)⟩

/-- **Settings are read exactly.** Sessions get the settings that the variables give, and if the timeout gives
no number of seconds, it is reported. The watcher gets those that the variables give; if the interval gives none,
it is reported, whatever the address is, and if only the address gives none, that is. A numeral of a
number with more than 64 bits is reported as too large. A setting is the same in all environments in which
its own variable is. -/
theorem settings_are_read_exactly (raw : RawEnvironment) :
    ((∀ c, SessionConfig.ofEnvironment (ofBytes raw) = .ok c ↔ c.From raw) ∧
      ((∃ n, raw.Gives "KUBERLOGIC_SQL_TIMEOUT_SECS" 30 MeansSeconds n) →
        ∃ c, SessionConfig.ofEnvironment (ofBytes raw) = .ok c) ∧
      ((¬ ∃ n, raw.Gives "KUBERLOGIC_SQL_TIMEOUT_SECS" 30 MeansSeconds n) →
        ∃ reason, SessionConfig.ofEnvironment (ofBytes raw) =
          .error (.illegalConfig "KUBERLOGIC_SQL_TIMEOUT_SECS" reason))) ∧
    ((∀ c, WatcherConfig.ofEnvironment (ofBytes raw) = .ok c ↔ c.From raw) ∧
      ((∃ n, raw.Gives "KUBERLOGIC_PROBE_INTERVAL_SECS" 60 MeansSeconds n) →
        (∃ a, raw.Gives "KUBERLOGIC_LISTEN_ADDR" (.v4 [0, 0, 0, 0] 8080) MeansAddress a) →
        ∃ c, WatcherConfig.ofEnvironment (ofBytes raw) = .ok c) ∧
      ((¬ ∃ n, raw.Gives "KUBERLOGIC_PROBE_INTERVAL_SECS" 60 MeansSeconds n) →
        ∃ reason, WatcherConfig.ofEnvironment (ofBytes raw) =
          .error (.illegalConfig "KUBERLOGIC_PROBE_INTERVAL_SECS" reason)) ∧
      ((∃ n, raw.Gives "KUBERLOGIC_PROBE_INTERVAL_SECS" 60 MeansSeconds n) →
        (¬ ∃ a, raw.Gives "KUBERLOGIC_LISTEN_ADDR" (.v4 [0, 0, 0, 0] 8080) MeansAddress a) →
        ∃ reason, WatcherConfig.ofEnvironment (ofBytes raw) =
          .error (.illegalConfig "KUBERLOGIC_LISTEN_ADDR" reason))) ∧
    (∀ text core n, Text.Padded core text.toList → Text.Denotes core n → Nat.pow 2 64 ≤ n →
      (raw.Holds "KUBERLOGIC_SQL_TIMEOUT_SECS" text → SessionConfig.ofEnvironment (ofBytes raw) =
        .error (.illegalConfig "KUBERLOGIC_SQL_TIMEOUT_SECS" "number too large to fit in target type")) ∧
      (raw.Holds "KUBERLOGIC_PROBE_INTERVAL_SECS" text → WatcherConfig.ofEnvironment (ofBytes raw) =
        .error (.illegalConfig "KUBERLOGIC_PROBE_INTERVAL_SECS"
          "number too large to fit in target type"))) ∧
    (∀ raw' c c', SessionConfig.ofEnvironment (ofBytes raw) = .ok c →
      SessionConfig.ofEnvironment (ofBytes raw') = .ok c' →
      (raw "KUBERLOGIC_SQL_TIMEOUT_SECS" = raw' "KUBERLOGIC_SQL_TIMEOUT_SECS" →
        c.sqlTimeout = c'.sqlTimeout) ∧
      (raw "KUBERLOGIC_CLUSTER_DOMAIN" = raw' "KUBERLOGIC_CLUSTER_DOMAIN" →
        c.clusterDomain = c'.clusterDomain)) ∧
    ∀ raw' c c', WatcherConfig.ofEnvironment (ofBytes raw) = .ok c →
      WatcherConfig.ofEnvironment (ofBytes raw') = .ok c' →
      (raw "KUBERLOGIC_PROBE_DATABASE" = raw' "KUBERLOGIC_PROBE_DATABASE" →
        c.probeDatabase = c'.probeDatabase) ∧
      (raw "KUBERLOGIC_PROBE_TABLE" = raw' "KUBERLOGIC_PROBE_TABLE" → c.probeTable = c'.probeTable) ∧
      (raw "KUBERLOGIC_PROBE_INTERVAL_SECS" = raw' "KUBERLOGIC_PROBE_INTERVAL_SECS" →
        c.interval = c'.interval) ∧
      (raw "KUBERLOGIC_LISTEN_ADDR" = raw' "KUBERLOGIC_LISTEN_ADDR" →
        c.listenAddress = c'.listenAddress) := by
  refine ⟨⟨session_ok_iff raw, fun given => ?_, fun none => ?_⟩,
    ⟨watcher_ok_iff raw, fun given given' => ?_, fun none => ?_, fun given none => ?_⟩,
    fun text core n padded numeral large => ⟨fun held => ?_, fun held => ?_⟩,
    fun raw' c c' read read' => ?_, fun raw' c c' read read' => ?_⟩
  · obtain ⟨c, read, -⟩ | ⟨reason, -, none⟩ := session_cases raw
    · exact ⟨c, read⟩
    · exact absurd given (not_exists.2 none)
  · obtain ⟨c, -, gives⟩ | ⟨reason, read, -⟩ := session_cases raw
    · exact absurd ⟨_, ((gives c).2 rfl).sqlTimeout⟩ none
    · exact ⟨reason, read⟩
  · obtain ⟨c, read, -⟩ | ⟨reason, -, none⟩ | ⟨reason, -, -, none⟩ := watcher_cases raw
    · exact ⟨c, read⟩
    · exact absurd given (not_exists.2 none)
    · exact absurd given' (not_exists.2 none)
  · obtain ⟨c, -, gives⟩ | ⟨reason, read, -⟩ | ⟨reason, -, given, -⟩ := watcher_cases raw
    · exact absurd ⟨_, ((gives c).2 rfl).interval⟩ none
    · exact ⟨reason, read⟩
    · exact absurd given none
  · obtain ⟨c, -, gives⟩ | ⟨reason, -, none'⟩ | ⟨reason, read, -⟩ := watcher_cases raw
    · exact absurd ⟨_, ((gives c).2 rfl).listenAddress⟩ none
    · exact absurd given (not_exists.2 none')
    · exact ⟨reason, read⟩
  · rw [SessionConfig.ofEnvironment, read?_large held padded numeral large]
    rfl
  · rw [WatcherConfig.ofEnvironment, read?_large held padded numeral large]
    rfl
  · have is := (session_ok_iff raw c).1 read
    have is' := (session_ok_iff raw' c').1 read'
    exact ⟨fun same => gives_same functional_seconds same is.sqlTimeout is'.sqlTimeout,
      fun same => gives_same functional_name same is.clusterDomain is'.clusterDomain⟩
  · have is := (watcher_ok_iff raw c).1 read
    have is' := (watcher_ok_iff raw' c').1 read'
    exact ⟨fun same => gives_same functional_name same is.probeDatabase is'.probeDatabase,
      fun same => gives_same functional_name same is.probeTable is'.probeTable,
      fun same => gives_same functional_seconds same is.interval is'.interval,
      fun same => gives_same functional_address same is.listenAddress is'.listenAddress⟩

/-- Some variables: a number behind a sign, zeros and blanks, one with more than 64 bits, an address that is none,
a name of blanks and bytes that are no text. -/
def motley : RawEnvironment := fun key =>
  if key = "KUBERLOGIC_SQL_TIMEOUT_SECS" then some (Text.utf8 " +007\u2003")
  else if key = "KUBERLOGIC_CLUSTER_DOMAIN" then some (Text.utf8 "  ")
  else if key = "KUBERLOGIC_PROBE_INTERVAL_SECS" then some (Text.utf8 "18446744073709551616")
  else if key = "KUBERLOGIC_LISTEN_ADDR" then some (Text.utf8 "nowhere")
  else if key = "KUBERLOGIC_PROBE_TABLE" then some [0xff]
  else none

theorem padded_numeral_is_read_and_large_one_reported :
    SessionConfig.ofEnvironment (ofBytes motley) = .ok { sqlTimeout := 7, clusterDomain := "  " } ∧
      WatcherConfig.ofEnvironment (ofBytes motley) = .error (.illegalConfig "KUBERLOGIC_PROBE_INTERVAL_SECS"
        "number too large to fit in target type") := by
  obtain ⟨⟨sessions, -⟩, -, large, -⟩ := settings_are_read_exactly motley
  have seven : MeansSeconds " +007\u2003" 7 :=
    ⟨['+', '0', '0', '7'], ⟨[' '], ['\u2003'], rfl, List.all_eq_true.1 rfl⟩,
      ⟨['0', '0', '7'], List.cons_ne_nil _ _, List.all_eq_true.1 rfl, .inr rfl, rfl⟩, by decide⟩
  have bare : Text.Padded "18446744073709551616".toList "18446744073709551616".toList :=
    ⟨[], [], rfl, nofun⟩
  have numeral : Text.Denotes "18446744073709551616".toList (Nat.pow 2 64) :=
    ⟨_, by decide, List.all_eq_true.1 (by decide), .inl rfl, by decide +kernel⟩
  exact ⟨(sessions _).2 ⟨.text rfl seven, .text rfl rfl⟩, (large _ _ _ bare numeral (Nat.le_refl _)).2 rfl⟩

end Environment
end ManagedDatabase
