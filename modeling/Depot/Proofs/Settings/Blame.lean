import Depot.Proofs.ConnectionString.Congruence
import Depot.Proofs.Settings.Checked
import Depot.Proofs.Text.Integer

namespace Depot.Settings.Server

inductive Number where
  | port
  | db
deriving DecidableEq, Repr

namespace Number

def key : Number → String
  | port => "port"
  | db => "db"

def default : Number → Int
  | port => 6379
  | db => 0

def Fits : Number → Int → Prop
  | port, n => 1 ≤ n ∧ n ≤ 65535
  | db, n => 0 ≤ n ∧ n ≤ 15

/-- The complaint about a number that does not fit. -/
def complaint : Number → Int → String
  | port, n => portRule n
  | db, n => dbRule n

theorem fits_default (number : Number) : number.Fits number.default := by
  cases number <;> exact ⟨by decide, by decide⟩

/-- A text that is given denotes the number; without one, the number is the default. -/
inductive Holds (number : Number) : Option String → Int → Prop
  | absent : number.Holds none number.default
  | given {text : String} {n : Int} (denotes : Text.Denotes text n) : number.Holds (some text) n

end Number

/-- A switch is off when it is absent and on when it is bare, and it is turned by a word in whatever letter case. -/
inductive Switched : Option String → Bool → Prop
  | absent : Switched none false
  | bare : Switched (some "") true
  | on {text : String} (word : ∃ word ∈ ["true", "1", "yes"], SpelledAlike text word) : Switched (some text) true
  | off {text : String} (word : ∃ word ∈ ["false", "0", "no"], SpelledAlike text word) : Switched (some text) false

/-- What a connection string says of a server; a text that is empty counts as absent, but for the switch. -/
structure Stated (cs : ConnectionString) (s : Server) : Prop where
  host : s.host = (given? (cs.get? "host")).getD "localhost"
  port : Number.port.Holds (given? (cs.get? "port")) s.port
  password : s.password = given? (cs.get? "password")
  db : Number.db.Holds (given? (cs.get? "db")) s.db
  ssl : Switched (cs.get? "ssl") s.ssl
  namespaceName : s.namespaceName = (given? (cs.get? "channelPrefix")).getD "fluentstorage"
  limits : s.maxConnections = 50 ∧ s.connectTimeout = 2000 ∧ s.socketTimeout = 5000

/-- Each number is absent, empty or in its range, and the switch is absent, bare or turned by a word. -/
structure Sound (cs : ConnectionString) : Prop where
  numbers : ∀ number : Number, given? (cs.get? number.key) = none ∨
    ∃ text n, given? (cs.get? number.key) = some text ∧ Text.Denotes text n ∧ number.Fits n
  switch : ∃ on, Switched (cs.get? "ssl") on

inductive Rule where
  | integer (number : Number)
  | switch
  | range (number : Number)
deriving DecidableEq, Repr

namespace Rule

/-- In the order in which they are gone through. -/
def all : List Rule := [integer .port, integer .db, switch, range .port, range .db]

def key : Rule → String
  | integer number => number.key
  | switch => "ssl"
  | range number => number.key

def earlier (rule : Rule) : List Rule := all.takeWhile fun other => other ≠ rule

theorem earlier_total (first second : Rule) : first = second ∨ first ∈ second.earlier ∨ second ∈ first.earlier := by
  have listed (rule : Rule) : rule ∈ all := by
    rcases rule with number | _ | number
    · cases number <;> decide
    · decide
    · cases number <;> decide
  have total : ∀ first ∈ all, ∀ second ∈ all,
      first = second ∨ first ∈ second.earlier ∨ second ∈ first.earlier := by decide
  exact total first (listed first) second (listed second)

end Rule

/-- A rule is broken, and this is what is to be reported of it. -/
inductive Breaks (cs : ConnectionString) : Rule → Failure → Prop
  | integer {number : Number} {text : String} (there : given? (cs.get? number.key) = some text)
      (illegible : ∀ n, ¬ Text.Denotes text n) :
      Breaks cs (.integer number) (.invalidParameter number.key text "must be an integer")
  | switch {text : String} (there : cs.get? "ssl" = some text) (wordless : ∀ on, ¬ Switched (some text) on) :
      Breaks cs .switch (.invalidParameter "ssl" text "must be true or false")
  | range {number : Number} {text : String} {n : Int} (there : given? (cs.get? number.key) = some text)
      (denotes : Text.Denotes text n) (outside : ¬ number.Fits n) :
      Breaks cs (.range number) (.invalidParameter number.key (toString n) (number.complaint n))

def Broken (cs : ConnectionString) (rule : Rule) : Prop := ∃ e, Breaks cs rule e

/-- Settings as they are stated when they are sound, and otherwise the failure of the first rule that is broken. -/
inductive Judged (cs : ConnectionString) : Outcome Server → Prop
  | configured {s : Server} (sound : Sound cs) (stated : Stated cs s) : Judged cs (.ok s)
  | blamed {rule : Rule} {e : Failure} (broken : Breaks cs rule e) (kept : ∀ other ∈ rule.earlier, ¬ Broken cs other) :
      Judged cs (.error e)

variable {cs : ConnectionString}

theorem Breaks.reported {rule : Rule} {e : Failure} (broken : Breaks cs rule e) :
    e.code = .invalidParameter ∧ e.key = .text rule.key := by
  cases broken <;> exact ⟨rfl, rfl⟩

/-- What is read for a number. -/
inductive Read (cs : ConnectionString) (number : Number) : Option Int → Prop
  | absent (nothing : given? (cs.get? number.key) = none) : Read cs number none
  | given {text : String} {n : Int} (there : given? (cs.get? number.key) = some text)
      (denotes : Text.Denotes text n) : Read cs number (some n)

theorem integerParameter_cases (cs : ConnectionString) (number : Number) :
    (∃ value, Read cs number value ∧ integerParameter cs number.key = .ok value) ∨
      ∃ e, Breaks cs (.integer number) e ∧ integerParameter cs number.key = .error e := by
  unfold integerParameter
  cases there : given? (cs.get? number.key) with
  | none => exact .inl ⟨none, .absent there, rfl⟩
  | some text =>
    simp only []
    cases read : Text.readInteger text with
    | ok n => exact .inl ⟨some n, .given there (Text.readInteger_eq_ok_iff.mp read), rfl⟩
    | error =>
      refine .inr ⟨_, .integer there fun n denotes => ?_, rfl⟩
      rw [Text.readInteger_eq_ok_iff.mpr denotes] at read
      cases read

namespace Read

variable {number : Number} {value : Option Int}

theorem holds (read : Read cs number value) :
    number.Holds (given? (cs.get? number.key)) (value.getD number.default) := by
  cases read with
  | absent nothing => rw [nothing]; exact .absent
  | given there denotes => rw [there]; exact .given denotes

theorem integer_kept (read : Read cs number value) : ¬ Broken cs (.integer number) := by
  rintro ⟨_, broken⟩
  cases broken with
  | integer there illegible =>
    cases read with
    | absent nothing => cases nothing.symm.trans there
    | given text denotes =>
      cases text.symm.trans there
      exact illegible _ denotes

theorem range_kept (read : Read cs number value) (fits : number.Fits (value.getD number.default)) :
    ¬ Broken cs (.range number) := by
  rintro ⟨_, broken⟩
  cases broken with
  | range there denotes outside =>
    cases read with
    | absent nothing => cases nothing.symm.trans there
    | given text same =>
      cases text.symm.trans there
      rw [denotes.unique same] at outside
      exact outside fits

theorem sound (read : Read cs number value) (fits : number.Fits (value.getD number.default)) :
    given? (cs.get? number.key) = none ∨
      ∃ text n, given? (cs.get? number.key) = some text ∧ Text.Denotes text n ∧ number.Fits n := by
  cases read with
  | absent nothing => exact .inl nothing
  | given there denotes => exact .inr ⟨_, _, there, denotes, fits⟩

/-- Only a number that is given can be out of range, since every default fits. -/
theorem range_broken (read : Read cs number value) (outside : ¬ number.Fits (value.getD number.default)) :
    Breaks cs (.range number) (.invalidParameter number.key ((value.map toString).getD "")
      (number.complaint (value.getD number.default))) := by
  cases read with
  | absent => exact absurd number.fits_default outside
  | given there denotes => exact .range there denotes outside

end Read

theorem sslParameter_eq_ok_iff {on : Bool} : sslParameter cs = .ok on ↔ Switched (cs.get? "ssl") on := by
  unfold sslParameter
  cases cs.get? "ssl" with
  | none =>
    constructor
    · rintro ⟨⟩
      exact .absent
    · rintro ⟨⟩
      rfl
  | some text =>
    have turns : Text.lower text ∈ ["", "true", "1", "yes"] ↔
        ∃ word ∈ ["", "true", "1", "yes"], SpelledAlike text word := lower_mem_iff (by decide)
    have stops : Text.lower text ∈ ["false", "0", "no"] ↔ ∃ word ∈ ["false", "0", "no"], SpelledAlike text word :=
      lower_mem_iff (by decide)
    have apart : ∀ word ∈ ["false", "0", "no"], word ∉ ["", "true", "1", "yes"] := by decide
    simp only [List.contains_iff_mem]
    constructor
    · intro read
      split_ifs at read with turned stopped
      · cases read
        obtain ⟨word, member, alike⟩ := turns.mp turned
        -- The empty text is the first of the words that turn the switch on.
        rcases List.mem_cons.mp member with rfl | later
        · obtain rfl : text = "" := String.toList_eq_nil_iff.mp (List.map_eq_nil_iff.mp alike)
          exact .bare
        · exact .on ⟨word, later, alike⟩
      · cases read
        exact .off (stops.mp stopped)
    · intro switched
      cases switched with
      | bare => rfl
      | on word =>
        obtain ⟨word, member, alike⟩ := word
        rw [if_pos (turns.mpr ⟨word, List.mem_cons_of_mem _ member, alike⟩)]
      | off word =>
        have stopped := stops.mpr word
        rw [if_neg (apart _ stopped), if_pos stopped]

theorem sslParameter_cases (cs : ConnectionString) :
    (∃ on, Switched (cs.get? "ssl") on ∧ sslParameter cs = .ok on) ∨
      ∃ e, Breaks cs .switch e ∧ sslParameter cs = .error e := by
  cases read : sslParameter cs with
  | ok on => exact .inl ⟨on, sslParameter_eq_ok_iff.mp read, rfl⟩
  | error e =>
    have wordless (on : Bool) : ¬ Switched (cs.get? "ssl") on := by
      intro switched
      rw [sslParameter_eq_ok_iff.mpr switched] at read
      cases read
    refine .inr ⟨e, ?_, rfl⟩
    unfold sslParameter at read
    cases there : cs.get? "ssl" with
    | none =>
      rw [there] at read
      cases read
    | some text =>
      rw [there] at read wordless
      simp only [] at read
      split_ifs at read
      cases read
      exact .switch there wordless

theorem occurs_iff {word l : List Char} : occurs word l ↔ word <:+: l := by
  induction l with
  | nil => rw [occurs, List.isEmpty_iff, List.infix_nil]
  | cons c rest ih => rw [occurs, Bool.or_eq_true, List.isPrefixOf_iff_prefix, ih, List.infix_cons_iff]

/-- Whatever the number is, the complaint about a port has no letter d. -/
theorem blamedKey_portRule (n : Int) : blamedKey (portRule n) = "port" := by
  have text : (portRule n).toList = "port must be in [1, 65535], got ".toList ++ (toString n).toList :=
    String.toList_append
  have front : 'd' ∉ "port must be in [1, 65535], got ".toList := by decide
  have other : 'd' ∉ (portRule n).toList := by
    rw [text, List.mem_append, not_or]
    refine ⟨front, fun member => ?_⟩
    rcases Text.sign_or_digit_of_mem_toString member with sign | digit
    · exact absurd sign (by decide)
    · exact absurd digit (by decide)
  have nowhere : ¬ occurs "db".toList (portRule n).toList := fun inside =>
    other ((occurs_iff.mp inside).subset (by decide))
  rw [blamedKey, if_neg nowhere]

theorem blamedKey_dbRule (n : Int) : blamedKey (dbRule n) = "db" := by
  have text : (dbRule n).toList = "db must be in [0, 15], got ".toList ++ (toString n).toList := String.toList_append
  have front : "db".toList <+: "db must be in [0, 15], got ".toList := by decide
  have inside : occurs "db".toList (dbRule n).toList := by
    rw [text, occurs_iff]
    exact (front.trans (List.prefix_append _ _)).isInfix
  rw [blamedKey, if_pos inside]

theorem portInRange_iff {n : Int} : portInRange n ↔ Number.port.Fits n := by
  rw [portInRange, Bool.and_eq_true, decide_eq_true_eq, decide_eq_true_eq, Number.Fits]

theorem dbInRange_iff {n : Int} : dbInRange n ↔ Number.db.Fits n := by
  rw [dbInRange, Bool.and_eq_true, decide_eq_true_eq, decide_eq_true_eq, Number.Fits]

variable {s : Server} {port db : Option Int}

theorem blamed_of_port (outside : ¬ Number.port.Fits s.port) :
    s.blamed port db = .error (.invalidParameter "port" ((port.map toString).getD "") (portRule s.port)) := by
  have made : s.make = .error (.raised .value (portRule s.port)) := by
    rw [make, check, Bool.eq_false_iff.mpr (mt portInRange_iff.mp outside)]
    rfl
  simp only [blamed, made, Fault.plain, blamedKey_portRule]
  rfl

theorem blamed_of_db (fits : Number.port.Fits s.port) (outside : ¬ Number.db.Fits s.db) :
    s.blamed port db = .error (.invalidParameter "db" ((db.map toString).getD "") (dbRule s.db)) := by
  have made : s.make = .error (.raised .value (dbRule s.db)) := by
    rw [make, check, portInRange_iff.mpr fits, Bool.eq_false_iff.mpr (mt dbInRange_iff.mp outside)]
    rfl
  simp only [blamed, made, Fault.plain, blamedKey_dbRule]
  rfl

/-- Nothing but the two numbers can be wrong with settings that have a name and positive limits. -/
theorem blamed_of_fits (port_fits : Number.port.Fits s.port) (db_fits : Number.db.Fits s.db)
    (limits : 0 < s.maxConnections ∧ 0 < s.connectTimeout ∧ 0 < s.socketTimeout) (named : s.namespaceName ≠ "") :
    s.blamed port db = .ok s := by
  have filled : s.namespaceName.isEmpty = false := Bool.eq_false_iff.mpr (mt String.isEmpty_iff.mp named)
  have made : s.make = .ok s := by
    simp only [make, check, portInRange_iff.mpr port_fits, dbInRange_iff.mpr db_fits, Int.not_le.mpr limits.1,
      Int.not_le.mpr limits.2.1, Int.not_le.mpr limits.2.2, filled, Bool.not_true, Bool.false_eq_true, if_false]
    rfl
  rw [blamed, made]

theorem switch_kept {on : Bool} (switched : Switched (cs.get? "ssl") on) : ¬ Broken cs .switch := by
  rintro ⟨_, broken⟩
  cases broken with
  | switch there wordless => exact wordless on (there ▸ switched)

/-- Whatever is read, the settings are stated, or else a range is broken and all reading has kept its rules. -/
theorem judged_blamed {on : Bool} (portRead : Read cs .port port) (dbRead : Read cs .db db)
    (switched : Switched (cs.get? "ssl") on) :
    Judged cs (blamed port db {
      host := (given? (cs.get? "host")).getD "localhost"
      port := port.getD 6379
      password := given? (cs.get? "password")
      db := db.getD 0
      ssl := on
      namespaceName := (given? (cs.get? "channelPrefix")).getD "fluentstorage" }) := by
  have read_kept : ∀ rule ∈ [Rule.integer .port, .integer .db, .switch], ¬ Broken cs rule := by
    simp only [List.forall_mem_cons]
    exact ⟨portRead.integer_kept, dbRead.integer_kept, switch_kept switched, List.forall_mem_nil _⟩
  by_cases portFits : Number.port.Fits (port.getD 6379)
  case neg =>
    rw [blamed_of_port portFits]
    exact .blamed (portRead.range_broken portFits) read_kept
  have port_kept := portRead.range_kept portFits
  by_cases dbFits : Number.db.Fits (db.getD 0)
  case neg =>
    rw [blamed_of_db portFits dbFits]
    refine .blamed (dbRead.range_broken dbFits) ?_
    exact List.forall_mem_append.mpr ⟨read_kept, List.forall_mem_singleton.mpr port_kept⟩
  -- No other check can fail: the limits are the defaults, and an empty name has been replaced.
  have limits : (0 : Int) < 50 ∧ (0 : Int) < 2000 ∧ (0 : Int) < 5000 := by decide
  rw [blamed_of_fits portFits dbFits limits (getD_given?_ne_empty _ (by decide))]
  refine .configured ⟨fun number => ?_, on, switched⟩
    ⟨rfl, portRead.holds, rfl, dbRead.holds, switched, rfl, rfl, rfl, rfl⟩
  cases number with
  | port => exact portRead.sound portFits
  | db => exact dbRead.sound dbFits

theorem judged_ofConnectionString (cs : ConnectionString) : Judged cs (ofConnectionString cs) := by
  unfold ofConnectionString
  obtain ⟨port, portRead, read⟩ | ⟨e, broken, refused⟩ := integerParameter_cases cs .port
  case inr =>
    rw [show integerParameter cs "port" = .error e from refused]
    exact .blamed broken (List.forall_mem_nil _)
  rw [show integerParameter cs "port" = .ok port from read]
  obtain ⟨db, dbRead, read⟩ | ⟨e, broken, refused⟩ := integerParameter_cases cs .db
  case inr =>
    rw [show integerParameter cs "db" = .error e from refused]
    exact .blamed broken (List.forall_mem_singleton.mpr portRead.integer_kept)
  rw [show integerParameter cs "db" = .ok db from read]
  obtain ⟨on, switched, read⟩ | ⟨e, broken, refused⟩ := sslParameter_cases cs
  case inr =>
    rw [refused]
    refine .blamed broken (List.forall_mem_cons.mpr ⟨portRead.integer_kept, ?_⟩)
    exact List.forall_mem_singleton.mpr dbRead.integer_kept
  rw [read]
  exact judged_blamed portRead dbRead switched

theorem Breaks.unique {rule : Rule} {e other : Failure} (broken : Breaks cs rule e) (again : Breaks cs rule other) :
    e = other := by
  cases broken with
  | integer there =>
    cases again with
    | integer text => cases there.symm.trans text; rfl
  | switch there =>
    cases again with
    | switch text => cases there.symm.trans text; rfl
  | range there denotes =>
    cases again with
    | range text same =>
      cases there.symm.trans text
      rw [denotes.unique same]

/-- Only one failure is that of the first broken rule. -/
theorem unique_of_first {rule other : Rule} {e e' : Failure} (broken : Breaks cs rule e)
    (kept : ∀ before ∈ rule.earlier, ¬ Broken cs before) (broken' : Breaks cs other e')
    (kept' : ∀ before ∈ other.earlier, ¬ Broken cs before) : e = e' := by
  rcases rule.earlier_total other with rfl | before | before
  · exact broken.unique broken'
  · exact absurd ⟨e, broken⟩ (kept' rule before)
  · exact absurd ⟨e', broken'⟩ (kept other before)

theorem Sound.exists_read (sound : Sound cs) (number : Number) :
    ∃ value, Read cs number value ∧ number.Fits (value.getD number.default) := by
  obtain nothing | ⟨text, n, there, denotes, fits⟩ := sound.numbers number
  · exact ⟨none, .absent nothing, number.fits_default⟩
  · exact ⟨some n, .given there denotes, fits⟩

theorem Sound.kept (sound : Sound cs) (rule : Rule) : ¬ Broken cs rule := by
  cases rule with
  | integer number =>
    obtain ⟨_, read, -⟩ := sound.exists_read number
    exact read.integer_kept
  | switch =>
    obtain ⟨_, switched⟩ := sound.switch
    exact switch_kept switched
  | range number =>
    obtain ⟨_, read, fits⟩ := sound.exists_read number
    exact read.range_kept fits

theorem Number.Holds.unique {number : Number} {text : Option String} {n k : Int} (first : number.Holds text n)
    (second : number.Holds text k) : n = k := by
  cases first with
  | absent => cases second; rfl
  | given denotes =>
    cases second with
    | given same => exact denotes.unique same

theorem Stated.unique {other : Server} (first : Stated cs s) (second : Stated cs other) : s = other := by
  have ssl : s.ssl = other.ssl := Except.ok.inj
    ((sslParameter_eq_ok_iff.mpr first.ssl).symm.trans (sslParameter_eq_ok_iff.mpr second.ssl))
  obtain ⟨connections, connect, socket⟩ := first.limits
  obtain ⟨connections', connect', socket'⟩ := second.limits
  cases s
  cases other
  rw [Server.mk.injEq]
  exact ⟨first.host.trans second.host.symm, first.port.unique second.port, first.password.trans second.password.symm,
    first.db.unique second.db, ssl, first.namespaceName.trans second.namespaceName.symm,
    connections.trans connections'.symm, connect.trans connect'.symm, socket.trans socket'.symm⟩

/-- A server is configured exactly if every parameter is sound, and then as is stated. Every failure is that of the
first broken rule, and names the parameter that breaks it. -/
theorem configured_or_blamed (cs : ConnectionString) :
    ((∃ s, ofConnectionString cs = .ok s) ↔ Sound cs) ∧
    (∀ s, ofConnectionString cs = .ok s ↔ Sound cs ∧ Stated cs s) ∧
    (∀ e, ofConnectionString cs = .error e ↔
      ∃ rule, Breaks cs rule e ∧ ∀ before ∈ rule.earlier, ¬ Broken cs before) ∧
    ∀ rule e, Breaks cs rule e → e.code = .invalidParameter ∧ e.key = .text rule.key := by
  have judged := judged_ofConnectionString cs
  generalize ofConnectionString cs = outcome at judged
  cases judged with
  | @configured made sound stated =>
    refine ⟨iff_of_true ⟨made, rfl⟩ sound, fun s => ⟨?_, fun other => ?_⟩, fun e => ⟨nofun, ?_⟩,
      fun _ _ => Breaks.reported⟩
    · rintro ⟨⟩
      exact ⟨sound, stated⟩
    · rw [stated.unique other.2]
    · rintro ⟨rule, broken, -⟩
      exact absurd ⟨e, broken⟩ (sound.kept rule)
  | @blamed rule e broken kept =>
    have unsound : ¬ Sound cs := fun sound => sound.kept rule ⟨e, broken⟩
    refine ⟨iff_of_false nofun unsound, fun s => ⟨nofun, fun sound => absurd sound.1 unsound⟩, fun e' => ⟨?_, ?_⟩,
      fun _ _ => Breaks.reported⟩
    · rintro ⟨⟩
      exact ⟨rule, broken, kept⟩
    · rintro ⟨other, broken', kept'⟩
      rw [unique_of_first broken kept broken' kept']

/-- Digits of another script are read, a bare switch is on, and of three wrong parameters the first rule is reported. -/
theorem configured_or_blamed_first :
    (ofConnectionString (.ofParts "redis" [("port", " ６３_80"), ("db", ""), ("ssl", "")] none none) =
        .ok { port := 6380, ssl := true } ∧
      Sound (.ofParts "redis" [("port", " ６３_80"), ("db", ""), ("ssl", "")] none none)) ∧
    ∃ rule e, ofConnectionString (.ofParts "redis" [("db", "99"), ("ssl", "maybe"), ("port", "0")] none none) =
        .error e ∧ Breaks (.ofParts "redis" [("db", "99"), ("ssl", "maybe"), ("port", "0")] none none) rule e ∧
      e.key = .text "ssl" ∧ e.key = .text rule.key := by
  constructor
  · obtain ⟨-, stated, -, -⟩ := configured_or_blamed
      (.ofParts "redis" [("port", " ６３_80"), ("db", ""), ("ssl", "")] none none)
    have made : ofConnectionString (.ofParts "redis" [("port", " ６３_80"), ("db", ""), ("ssl", "")] none none) =
        .ok { port := 6380, ssl := true } := Outcome.toOption_eq_some_iff.mp (by decide +kernel)
    exact ⟨made, ((stated _).mp made).1⟩
  · obtain ⟨-, -, first, named⟩ := configured_or_blamed
      (.ofParts "redis" [("db", "99"), ("ssl", "maybe"), ("port", "0")] none none)
    obtain ⟨rule, broken, -⟩ := (first _).mp (by rfl)
    exact ⟨rule, _, by rfl, broken, by rfl, (named rule _ broken).2⟩

end Depot.Settings.Server
