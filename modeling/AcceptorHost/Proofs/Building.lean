import AcceptorHost.Console.Session
import AcceptorHost.Proofs.BillNames
import AcceptorHost.Proofs.Overflow

/-!
# What settings build

Settings take integers of any size and sign, and a courier takes most of them as they are:
the limit of failures is any integer, and the enabled bills are a mask of seven bits.  The
reply timeout and the poll interval become floating point numbers, and an integer too large
for one is not looked for when the settings are read.  So settings that are accepted build a
port and a courier if and only if these two are in range.
-/

namespace AcceptorHost

namespace Value

/-- A whole count of milliseconds in range is a finite count of seconds, any other one a fault. -/
theorem seconds_int_cases
    (n : Int) :
    (n.natAbs < Binary64.wholeBound ∧ ∃ s m e, (Value.int n).seconds = .ok (.finite s m e)) ∨
      (Binary64.wholeBound ≤ n.natAbs ∧ (Value.int n).seconds = .error .tooLarge) := by
  unfold seconds number
  simp only [integer?]
  rcases Binary64.ofInt_cases n with ⟨hin, s, m, e, hfinite⟩ | ⟨hout, s, hinfinite⟩
  · obtain ⟨m', e', hscale, -⟩ := Policy.seconds_le hfinite
    simp only [hfinite]
    exact .inl ⟨hin, s, m', e', congrArg Except.ok hscale⟩
  · simp only [hinfinite]
    exact .inr ⟨hout, rfl⟩

end Value

namespace Policy

/-- The shortest poll interval is the number nearest to a millisecond, which is just beyond it. -/
theorem leastInterval_eq : leastInterval = .finite false 4611686018427388 (-62) := by
  decide +kernel

theorem millisecond_le_leastInterval :
    (1 / 1000 : ℚ) ≤ Binary64.signed false 4611686018427388 (-62) := by
  norm_num [Binary64.signed]

/-- A poll interval is not shorter than a millisecond. -/
def IsLongEnough (x : Binary64) : Prop :=
  ∃ s m e, x = .finite s m e ∧ (1 / 1000 : ℚ) ≤ Binary64.signed s m e

/-- A finite count of seconds, or the shortest interval if that is longer, is long enough. -/
theorem isLongEnough_larger
    (s : Bool)
    (m : Nat)
    (e : Int) :
    IsLongEnough (Binary64.larger leastInterval (.finite s m e)) := by
  rw [leastInterval_eq, Binary64.larger]
  split
  case isTrue hlonger =>
    have hvalue := Binary64.lt_finite_iff.mp hlonger
    exact ⟨s, m, e, rfl, millisecond_le_leastInterval.trans hvalue.le⟩
  case isFalse =>
    exact ⟨false, _, _, rfl, millisecond_le_leastInterval⟩

end Policy

namespace Settings

/-- The two settings that become floating point numbers are in their range. -/
def InRange (s : Settings) : Prop :=
  s.timeoutMs.natAbs < Binary64.wholeBound ∧ s.pollIntervalMs.natAbs < Binary64.wholeBound

/-- A port and a courier are what settings describe, and nothing was done with them yet. -/
structure Describes (s : Settings) (port : SerialPort) (courier : Courier) : Prop where
  /-- The port has its name and its speed. -/
  port_eq : port.name = s.portName ∧ port.baud = .int s.baudRate
  /-- The port is closed at the start of a session. -/
  closed : ∀ {σ : Type} (lib : SerialLibrary σ) (options : Options) (library : σ),
    (port.port lib).isOpen (Session.opening options courier library).port = false
  /-- The courier was not started, and nothing was asked of it. -/
  not_started : courier.control = .fresh
  /-- The limit of failures is taken as it is. -/
  retryLimit_eq : courier.policy.retryLimit = .int s.pollRetryLimit
  /-- How serial numbers are written is taken as it is. -/
  unsignedSerial_eq : courier.policy.unsignedSerial = s.maskSerialNumber
  /-- The names of the bills are taken as they are. -/
  billNames_eq : courier.codec.billNames = s.billNames
  /-- The enabled bills are taken modulo 128. -/
  enabledBills_eq : (courier.codec.enabledBills.toNat : Int) = s.enabledBills % 128
  /-- The poll interval is finite and not shorter than a millisecond. -/
  interval_long : Policy.IsLongEnough courier.policy.pollInterval

/-- Settings in range build what they describe. -/
theorem describes_of_inRange
    (longest : Option Binary64)
    {s : Settings}
    (h : s.InRange) :
    ∃ port courier, s.build longest = .ok (port, courier) ∧ s.Describes port courier := by
  obtain ⟨htimeout, hinterval⟩ := h
  rcases Value.seconds_int_cases s.timeoutMs with ⟨-, t, k, f, hseconds⟩ | ⟨hout, -⟩
  case inr => exact absurd htimeout (not_lt.mpr hout)
  rcases Value.seconds_int_cases s.pollIntervalMs with ⟨-, negative, m, e, hpoll⟩ | ⟨hout, -⟩
  case inr => exact absurd hinterval (not_lt.mpr hout)
  let timeout : Value := .float (.finite t k f)
  let interval := Binary64.larger Policy.leastInterval (.finite negative m e)
  have hbuild : s.build longest = .ok (⟨s.portName, .int s.baudRate, timeout⟩,
      ⟨⟨interval, .int s.pollRetryLimit, timeout, s.maskSerialNumber, longest⟩, s.codec, .fresh,
        .empty, .fresh⟩) := by
    rw [build_eq, timeoutSeconds, hseconds, Policy.interval, hpoll]
    rfl
  refine ⟨_, _, hbuild, ?_⟩
  exact {
    port_eq := ⟨rfl, rfl⟩
    closed := fun _ _ _ => rfl
    not_started := rfl
    retryLimit_eq := rfl
    unsignedSerial_eq := rfl
    billNames_eq := rfl
    enabledBills_eq := by
      change ((BitVec.ofInt 7 s.enabledBills).toNat : Int) = _
      rw [BitVec.toNat_ofInt]
      omega
    interval_long := Policy.isLongEnough_larger negative m e }

/-- Settings out of range build nothing. -/
theorem build_of_not_inRange
    (longest : Option Binary64)
    {s : Settings}
    (h : ¬ s.InRange) :
    s.build longest = .error .tooLarge := by
  rw [build_eq, timeoutSeconds, Policy.interval]
  rcases Value.seconds_int_cases s.timeoutMs with ⟨hin, _, _, _, hseconds⟩ | ⟨-, hseconds⟩
  · rcases Value.seconds_int_cases s.pollIntervalMs with ⟨hpoll, -⟩ | ⟨-, hpoll⟩
    · exact absurd ⟨hin, hpoll⟩ h
    · rw [hseconds, hpoll]
      rfl
  · rw [hseconds]
    rfl

/--
Settings, which hold integers of any size and sign and any seven names, build a port and a
courier that are what they describe if and only if the reply timeout and the poll interval
are not out of range for floating point numbers.  If one of them is, building fails.
-/
theorem builds_described_iff
    (longest : Option Binary64)
    (s : Settings) :
    ((∃ port courier, s.build longest = .ok (port, courier) ∧ s.Describes port courier) ↔
        s.InRange) ∧
      (¬ s.InRange → s.build longest = .error .tooLarge) := by
  refine ⟨⟨?_, describes_of_inRange longest⟩, build_of_not_inRange longest⟩
  rintro ⟨port, courier, hbuild, -⟩
  by_contra hout
  rw [build_of_not_inRange longest hout] at hbuild
  cases hbuild

/-! ## A file with a poll interval that is out of range -/

/-- The characters of a settings file whose poll interval is a two with 308 zeros. -/
def farIntervalChars : List Char :=
  "\x7b\"apex\": \x7b\"port_name\": \"dev0\", \"poll_interval_ms\": 2".toList
    ++ List.replicate 308 '0' ++ "\x7d\x7d".toList

/-- The value of a settings file with a poll interval. -/
def intervalValue (ms : Int) : Value :=
  .record [("apex", .record [("port_name", .text "dev0"), ("poll_interval_ms", .int ms)])]

/-- The settings of such a file. -/
def withInterval (ms : Int) : Settings where
  portName := .text "dev0"
  baudRate := 9600
  pollIntervalMs := ms
  pollRetryLimit := 5
  timeoutMs := 250
  enabledBills := 0x7F
  billNames := Codec.usualBillNames
  maskSerialNumber := false
  seven_names := Codec.usual.seven_names

/-- Any poll interval is accepted. -/
theorem ofValue_intervalValue
    (limits : Json.Limits)
    (path : String)
    (ms : Int) :
    ((ofValue limits path (intervalValue ms) : Run Unit Settings) ()).result =
      .ok (withInterval ms) :=
  rfl

theorem read?_farInterval :
    (FileContent.bytes (String.ofList farIntervalChars).toUTF8).read? .none =
      some (.ok (intervalValue (2 * 10 ^ 308))) := by
  have hhead : "\x7b\"apex\": \x7b\"port_name\": \"dev0\", \"poll_interval_ms\": 2".toList = _ :=
    String.toList_ofList
  have hend : "\x7d\x7d".toList = _ := String.toList_ofList
  rw [FileContent.read?_toUTF8, String.toList_ofList, Json.parse, String.toList_ofList]
  unfold farIntervalChars
  rw [hhead, hend]
  decide +kernel

/-- The file is accepted, and building from its settings fails. -/
theorem build_of_far_interval_fails :
    ((load .unlimited "config.json" (.bytes (String.ofList farIntervalChars).toUTF8) :
        Run Unit Settings) ()).result = .ok (withInterval (2 * 10 ^ 308)) ∧
    (withInterval (2 * 10 ^ 308)).build (some Policy.usualLongestWait) = .error .tooLarge := by
  refine ⟨?_, build_of_not_inRange _ fun hin => ?_⟩
  · rw [load_of_read? .unlimited "config.json" read?_farInterval]
    exact ofValue_intervalValue .none "config.json" _
  · have hout : Binary64.wholeBound ≤ (2 * 10 ^ 308 : Int).natAbs := by decide +kernel
    exact absurd hin.2 (not_lt.mpr hout)

end Settings

end AcceptorHost
