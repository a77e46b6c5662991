import ClassAtlas.Instance.Registry
import ClassAtlas.Proofs.Text.Blank

/-! Which environments the service configuration is read from, and what is read. A number is
a decimal numeral within its bounds, with a plus sign and zeros in front of it and blanks
around it if need be; a text is trimmed, and a blank one counts as unset. Whatever
configuration an environment spells out in this way is read from it. -/
namespace ClassAtlas

/-- Digits, at least one, after an optional plus sign, and the number they stand for. -/
def IsNumeral (text : List Char) (n : Nat) : Prop :=
  ∃ digits, (text = digits ∨ text = '+' :: digits) ∧ digits ≠ [] ∧
    (∀ c ∈ digits, c.isDigit = true) ∧ Nat.ofDigitChars 10 digits 0 = n

theorem le_ofDigitChars (digits : List Char) (value : Nat) :
    value ≤ Nat.ofDigitChars 10 digits value := by
  induction digits generalizing value with
  | nil => exact Nat.le_refl value
  | cons c rest ih =>
    rw [Nat.ofDigitChars_cons]
    exact Nat.le_trans (by omega) (ih _)

/-- The value never falls, so a limit that is passed on the way is passed in the end. -/
theorem readDigits_eq_ok_iff {limit value n : Nat} {digits : List Char} (fits : value ≤ limit) :
    readDigits limit value digits = .ok n ↔
      (∀ c ∈ digits, c.isDigit = true) ∧ Nat.ofDigitChars 10 digits value = n ∧ n ≤ limit := by
  induction digits generalizing value with
  | nil =>
    simp only [readDigits, Except.ok.injEq, Nat.ofDigitChars_nil]
    constructor
    · rintro rfl
      exact ⟨by simp, rfl, fits⟩
    · exact fun reached => reached.2.1
  | cons c rest ih =>
    rw [Nat.ofDigitChars_cons, List.forall_mem_cons, readDigits]
    by_cases digit : c.isDigit = true
    · rw [if_pos digit]
      by_cases passed : limit < 10 * value + (c.toNat - '0'.toNat)
      · have never := le_ofDigitChars rest (10 * value + (c.toNat - '0'.toNat))
        simp only [passed, if_true, reduceCtorEq, false_iff]
        rintro ⟨_, rfl, within⟩
        omega
      · simp only [passed, if_false]
        rw [ih (by omega)]
        simp [digit]
    · simp [digit]

theorem readNatural_of_digits {limit : Nat} {digits : List Char} (nonempty : digits ≠ [])
    (decimal : ∀ c ∈ digits, c.isDigit = true) :
    readNatural limit digits = readDigits limit 0 digits := by
  unfold readNatural
  split
  · exact absurd rfl nonempty
  · cases decimal '+' List.mem_cons_self
  · cases decimal '+' List.mem_cons_self
  · rfl

theorem readNatural_signed {limit : Nat} {digits : List Char} (nonempty : digits ≠ []) :
    readNatural limit ('+' :: digits) = readDigits limit 0 digits := by
  cases digits with
  | nil => exact absurd rfl nonempty
  | cons => rfl

theorem readNatural_eq_ok_iff {limit n : Nat} {text : List Char} :
    readNatural limit text = .ok n ↔ IsNumeral text n ∧ n ≤ limit := by
  constructor
  · intro read
    unfold readNatural at read
    split at read
    · cases read
    · cases read
    · next digits more =>
      obtain ⟨decimal, value, within⟩ := (readDigits_eq_ok_iff (Nat.zero_le limit)).1 read
      exact ⟨⟨digits, .inr rfl, fun empty => more (by rw [empty]), decimal, value⟩, within⟩
    · next nonempty _ _ =>
      obtain ⟨decimal, value, within⟩ := (readDigits_eq_ok_iff (Nat.zero_le limit)).1 read
      exact ⟨⟨text, .inl rfl, nonempty, decimal, value⟩, within⟩
  · rintro ⟨⟨digits, form, nonempty, decimal, value⟩, within⟩
    have read := (readDigits_eq_ok_iff (Nat.zero_le limit)).2 ⟨decimal, value, within⟩
    rcases form with rfl | rfl
    · rw [readNatural_of_digits nonempty decimal, read]
    · rw [readNatural_signed nonempty, read]

theorem IsNumeral.unique {text : List Char} {n m : Nat} (numeral : IsNumeral text n)
    (other : IsNumeral text m) : n = m := by
  have first := readNatural_eq_ok_iff.2 ⟨numeral, Nat.le_max_left n m⟩
  have second := readNatural_eq_ok_iff.2 ⟨other, Nat.le_max_right n m⟩
  exact Except.ok.inj (first.symm.trans second)

/-! Numbers as they may stand in an environment. -/

/-- A decimal number with any zeros in front of it and any blanks around it. -/
def IsPadded (n : Nat) (text : List Char) : Prop :=
  ∃ left zeros right, Text.AllBlank left ∧ Text.AllBlank right ∧
    text = left ++ (List.replicate zeros '0' ++ Nat.toDigits 10 n) ++ right

theorem ofDigitChars_zeros (zeros : Nat) :
    Nat.ofDigitChars 10 (List.replicate zeros '0') 0 = 0 := by
  induction zeros with
  | zero => rfl
  | succ zeros ih => rw [List.replicate_succ, Nat.ofDigitChars_cons]; exact ih

theorem isNumeral_padded (zeros n : Nat) :
    IsNumeral (List.replicate zeros '0' ++ Nat.toDigits 10 n) n := by
  refine ⟨_, .inl rfl, by simp [Nat.toDigits_ne_nil], ?_, ?_⟩
  · intro c inside
    rcases List.mem_append.1 inside with zero | digit
    · rw [List.eq_of_mem_replicate zero]
      rfl
    · exact Nat.isDigit_of_mem_toDigits (by decide) (by decide) digit
  · rw [Nat.ofDigitChars_append, ofDigitChars_zeros, Nat.ofDigitChars_ten_toDigits]

theorem isBlank_of_isDigit {c : Char} (digit : c.isDigit = true) : Text.isBlank c = false := by
  have bounds : 48 ≤ c.toNat ∧ c.toNat ≤ 57 := by
    simpa [Char.isDigit, UInt32.le_iff_toNat_le] using digit
  simp [Text.isBlank]
  omega

theorem IsNumeral.isTrimmed {text : List Char} {n : Nat} (numeral : IsNumeral text n) :
    Text.IsTrimmed text := by
  obtain ⟨digits, form, _, decimal, _⟩ := numeral
  have visible : ∀ c ∈ digits, Text.isBlank c = false :=
    fun c inside => isBlank_of_isDigit (decimal c inside)
  apply Text.isTrimmed_of_visible
  rcases form with rfl | rfl
  · exact visible
  · exact List.forall_mem_cons.2 ⟨rfl, visible⟩

theorem IsPadded.numeral {n : Nat} {text : String} (padded : IsPadded n text.toList) :
    IsNumeral (Text.trim text).toList n := by
  obtain ⟨left, zeros, right, blankLeft, blankRight, whole⟩ := padded
  have numeral := isNumeral_padded zeros n
  rw [Text.trim, String.toList_ofList, whole,
    Text.trimBlanks_padded blankLeft blankRight numeral.isTrimmed]
  exact numeral

namespace ServiceConfig

/-- The number that a variable stands for: its numeral, if that is within the bounds, and the
default if the variable is unset. -/
inductive Denotes (limit least default : Nat) : Option String → Nat → Prop where
  | unset : Denotes limit least default none default
  | numeral {text : String} {n : Nat} (numeral : IsNumeral (Text.trim text).toList n)
      (enough : least ≤ n) (within : n ≤ limit) : Denotes limit least default (some text) n

theorem Denotes.bounds {limit least default n : Nat} {value : Option String}
    (denoted : Denotes limit least default value n) (proper : least ≤ default ∧ default ≤ limit) :
    least ≤ n ∧ n ≤ limit := by
  cases denoted with
  | unset => exact proper
  | numeral _ enough within => exact ⟨enough, within⟩

/-- The text that a variable stands for: the default if it is unset or blank. -/
inductive Names (default : String) : Option String → String → Prop where
  | unset : Names default none default
  | blank {text : String} (blank : Text.AllBlank text.toList) : Names default (some text) default
  | given {text : String} (visible : ¬ Text.AllBlank text.toList) :
      Names default (some text) (Text.trim text)

theorem numberOr_eq_ok_iff {setting : String} {value : Option String}
    {limit least default n : Nat} :
    numberOr setting value limit least default = .ok n ↔ Denotes limit least default value n := by
  cases value with
  | none =>
    rw [numberOr, Except.ok.injEq]
    constructor
    · rintro rfl
      exact .unset
    · rintro ⟨⟩
      rfl
  | some text =>
    rw [numberOr]
    cases read : readNatural limit (Text.trim text).toList with
    | error fault =>
      simp only [reduceCtorEq, false_iff]
      rintro (_ | ⟨numeral, _, within⟩)
      rw [readNatural_eq_ok_iff.2 ⟨numeral, within⟩] at read
      cases read
    | ok m =>
      obtain ⟨numeral, within⟩ := readNatural_eq_ok_iff.1 read
      by_cases few : m < least
      · simp only [few, if_true, reduceCtorEq, false_iff]
        rintro (_ | ⟨other, enough, _⟩)
        rw [numeral.unique other] at few
        omega
      · simp only [few, if_false, Except.ok.injEq]
        constructor
        · rintro rfl
          exact .numeral numeral (Nat.le_of_not_lt few) within
        · rintro (_ | ⟨other, _, _⟩)
          exact numeral.unique other

theorem numberOr_eq_error {setting : String} {value : Option String}
    {limit least default : Nat} {f : ConfigFault}
    (failed : numberOr setting value limit least default = .error f) :
    f.setting = setting ∧ value = some f.value := by
  unfold numberOr at failed
  split at failed
  · cases failed
  · split at failed
    · cases failed
      exact ⟨rfl, rfl⟩
    · split at failed
      · cases failed
        exact ⟨rfl, rfl⟩
      · cases failed

theorem names_iff {default text : String} {value : Option String} :
    Names default value text ↔ textOr value default = text := by
  cases value with
  | none =>
    constructor
    · rintro ⟨⟩
      rfl
    · rintro rfl
      exact .unset
  | some given =>
    have blank_iff : Text.trim given = "" ↔ Text.AllBlank given.toList := by
      rw [← Text.trimBlanks_eq_nil_iff, Text.trim, ← String.toList_eq_nil_iff,
        String.toList_ofList]
    by_cases blank : Text.AllBlank given.toList
    · have chosen : textOr (some given) default = default := if_pos (blank_iff.2 blank)
      rw [chosen]
      constructor
      · rintro (_ | _ | visible)
        · rfl
        · exact absurd blank visible
      · rintro rfl
        exact .blank blank
    · have chosen : textOr (some given) default = Text.trim given :=
        if_neg (mt blank_iff.1 blank)
      rw [chosen]
      constructor
      · rintro (_ | blank' | _)
        · exact absurd blank' blank
        · rfl
      · rintro rfl
        exact .given blank

theorem Names.proper {default text : String} {value : Option String}
    (named : Names default value text) (nonempty : default ≠ "")
    (trimmed : Text.IsTrimmed default.toList) : text ≠ "" ∧ Text.IsTrimmed text.toList := by
  cases named with
  | unset => exact ⟨nonempty, trimmed⟩
  | blank => exact ⟨nonempty, trimmed⟩
  | @given given visible =>
    rw [← Text.trimBlanks_eq_nil_iff] at visible
    rw [Text.trim, ne_eq, ← String.toList_eq_nil_iff, String.toList_ofList]
    exact ⟨visible, Text.isTrimmed_trimBlanks _⟩

theorem names_self {default text : String} (nonempty : text ≠ "")
    (trimmed : Text.IsTrimmed text.toList) : Names default (some text) text := by
  have kept : Text.trim text = text := by
    rw [Text.trim, Text.trimBlanks_of_isTrimmed trimmed, String.ofList_toList]
  rw [names_iff, textOr, kept, if_neg nonempty]

/-- What no configuration is without: a host and a provider, both trimmed, and room for a
program. -/
structure IsProper (c : ServiceConfig) : Prop where
  host_ne : c.host ≠ ""
  host_trimmed : Text.IsTrimmed c.host.toList
  provider_ne : c.provider ≠ ""
  provider_trimmed : Text.IsTrimmed c.provider.toList
  one_le : 1 ≤ c.maxInstances.toNat

/-- The environment holds the four values, the numbers padded in any way. -/
structure IsSpeltOut (c : ServiceConfig) (environment : String → Option String) : Prop where
  host : environment hostSetting = some c.host
  port : ∃ text : String, environment portSetting = some text ∧ IsPadded c.port.toNat text.toList
  maxInstances : ∃ text : String, environment maxInstancesSetting = some text ∧
    IsPadded c.maxInstances.toNat text.toList
  provider : environment providerSetting = some c.provider

section Read
variable (environment : String → Option String)

def PortIs (n : Nat) : Prop :=
  Denotes 65535 0 default.port.toNat (environment portSetting) n

def LimitIs (n : Nat) : Prop :=
  Denotes 18446744073709551615 1 default.maxInstances.toNat (environment maxInstancesSetting) n

/-- The four values are what the variables stand for. -/
structure IsReadFrom (c : ServiceConfig) : Prop where
  host : Names default.host (environment hostSetting) c.host
  port : PortIs environment c.port.toNat
  maxInstances : LimitIs environment c.maxInstances.toNat
  provider : Names default.provider (environment providerSetting) c.provider

/-- What is promised of an environment. -/
structure ReadsEnvironment : Prop where
  ok_iff : (∃ c, read environment = .ok c) ↔
    (∃ n, PortIs environment n) ∧ ∃ n, LimitIs environment n
  badPort : (¬ ∃ n, PortIs environment n) →
    ∃ f, read environment = .error f ∧ f.setting = portSetting
  badLimit : (∃ n, PortIs environment n) → (¬ ∃ n, LimitIs environment n) →
    ∃ f, read environment = .error f ∧ f.setting = maxInstancesSetting
  quotes : ∀ f, read environment = .error f → ∃ text, environment f.setting = some text ∧
    f.message = "Invalid value for " ++ f.setting ++ ": '" ++ text ++ "' (" ++
      f.fault.describe ++ ")"
  sound : ∀ c, read environment = .ok c → c.IsReadFrom environment ∧ c.IsProper ∧
    (InstanceRegistry.ofConfig c).maxInstances = c.maxInstances.toNat
  restores : ∀ c : ServiceConfig, c.IsProper → c.IsSpeltOut environment → read environment = .ok c

/-! The outcomes of the two numbers. -/

def readPort : Except ConfigFault Nat :=
  numberOr portSetting (environment portSetting) 65535 0 default.port.toNat

def readLimit : Except ConfigFault Nat :=
  numberOr maxInstancesSetting (environment maxInstancesSetting) 18446744073709551615 1
    default.maxInstances.toNat

theorem read_eq : read environment =
    match readPort environment, readLimit environment with
    | .error f, _ => .error f
    | .ok _, .error f => .error f
    | .ok port, .ok limit =>
      .ok ⟨textOr (environment hostSetting) default.host, port.toUInt16, limit.toUInt64,
        textOr (environment providerSetting) default.provider⟩ := by
  have steps : read environment = (readPort environment).bind fun port =>
      (readLimit environment).bind fun limit =>
        .ok ⟨textOr (environment hostSetting) default.host, port.toUInt16, limit.toUInt64,
          textOr (environment providerSetting) default.provider⟩ := rfl
  rw [steps]
  cases readPort environment with
  | error f => rfl
  | ok port => cases readLimit environment <;> rfl

variable {environment}

theorem readPort_eq_ok_iff {n : Nat} : readPort environment = .ok n ↔ PortIs environment n :=
  numberOr_eq_ok_iff

theorem readLimit_eq_ok_iff {n : Nat} : readLimit environment = .ok n ↔ LimitIs environment n :=
  numberOr_eq_ok_iff

theorem read_eq_ok_iff {c : ServiceConfig} :
    read environment = .ok c ↔ c.IsReadFrom environment := by
  constructor
  · intro done
    rw [read_eq] at done
    split at done
    · cases done
    · cases done
    · next port limit portRead limitRead =>
      obtain ⟨_, portFits⟩ := (readPort_eq_ok_iff.1 portRead).bounds (by decide)
      obtain ⟨_, limitFits⟩ := (readLimit_eq_ok_iff.1 limitRead).bounds (by decide)
      have samePort : port.toUInt16.toNat = port := by simp; omega
      have sameLimit : limit.toUInt64.toNat = limit := by simp; omega
      cases done
      refine ⟨names_iff.2 rfl, ?_, ?_, names_iff.2 rfl⟩
      · rw [samePort]
        exact readPort_eq_ok_iff.1 portRead
      · rw [sameLimit]
        exact readLimit_eq_ok_iff.1 limitRead
  · rintro ⟨host, port, limit, provider⟩
    rw [read_eq, readPort_eq_ok_iff.2 port, readLimit_eq_ok_iff.2 limit, names_iff.1 host,
      names_iff.1 provider]
    simp

theorem IsReadFrom.isProper {c : ServiceConfig} (read : c.IsReadFrom environment) :
    c.IsProper := by
  have trimmedHost : Text.IsTrimmed default.host.toList :=
    ⟨by rintro _ ⟨⟩; rfl, by rintro _ ⟨⟩; rfl⟩
  have trimmedProvider : Text.IsTrimmed default.provider.toList :=
    ⟨by rintro _ ⟨⟩; rfl, by rintro _ ⟨⟩; rfl⟩
  have host := read.host.proper (by decide) trimmedHost
  have provider := read.provider.proper (by decide) trimmedProvider
  exact ⟨host.1, host.2, provider.1, provider.2, (read.maxInstances.bounds (by decide)).1⟩

theorem IsSpeltOut.isReadFrom {c : ServiceConfig} (spelt : c.IsSpeltOut environment)
    (proper : c.IsProper) : c.IsReadFrom environment := by
  obtain ⟨host, ⟨portText, port, portPadded⟩, ⟨limitText, limit, limitPadded⟩, provider⟩ := spelt
  refine ⟨?_, ?_, ?_, ?_⟩
  · rw [host]
    exact names_self proper.host_ne proper.host_trimmed
  · have fits := c.port.toNat_lt
    rw [PortIs, port]
    exact .numeral portPadded.numeral (Nat.zero_le _) (by omega)
  · have fits := c.maxInstances.toNat_lt
    rw [LimitIs, limit]
    exact .numeral limitPadded.numeral proper.one_le (by omega)
  · rw [provider]
    exact names_self proper.provider_ne proper.provider_trimmed

theorem exists_read_iff : (∃ c, read environment = .ok c) ↔
    (∃ n, PortIs environment n) ∧ ∃ n, LimitIs environment n := by
  constructor
  · rintro ⟨c, done⟩
    have read := read_eq_ok_iff.1 done
    exact ⟨⟨_, read.port⟩, _, read.maxInstances⟩
  · rintro ⟨⟨port, portIs⟩, limit, limitIs⟩
    rw [read_eq, readPort_eq_ok_iff.2 portIs, readLimit_eq_ok_iff.2 limitIs]
    exact ⟨_, rfl⟩

theorem read_of_badPort (invalid : ¬ ∃ n, PortIs environment n) :
    ∃ f, read environment = .error f ∧ f.setting = portSetting := by
  cases port : readPort environment with
  | error f => exact ⟨f, by rw [read_eq, port], (numberOr_eq_error port).1⟩
  | ok n => exact absurd ⟨n, readPort_eq_ok_iff.1 port⟩ invalid

theorem read_of_badLimit {port : Nat} (portIs : PortIs environment port)
    (invalid : ¬ ∃ n, LimitIs environment n) :
    ∃ f, read environment = .error f ∧ f.setting = maxInstancesSetting := by
  cases limit : readLimit environment with
  | error f =>
    refine ⟨f, ?_, (numberOr_eq_error limit).1⟩
    rw [read_eq, readPort_eq_ok_iff.2 portIs, limit]
  | ok n => exact absurd ⟨n, readLimit_eq_ok_iff.1 limit⟩ invalid

theorem environment_of_read_eq_error {f : ConfigFault} (failed : read environment = .error f) :
    environment f.setting = some f.value := by
  rw [read_eq] at failed
  split at failed
  · next port =>
    cases failed
    obtain ⟨setting, value⟩ := numberOr_eq_error port
    rw [setting, value]
  · next limit =>
    cases failed
    obtain ⟨setting, value⟩ := numberOr_eq_error limit
    rw [setting, value]
  · cases failed

/-- Whatever is read is what the environment says, and whatever an environment can say is
read; a bad port is reported before a bad instance limit. -/
theorem readsEnvironment (environment : String → Option String) :
    ReadsEnvironment environment where
  ok_iff := exists_read_iff
  badPort := read_of_badPort
  badLimit := fun ⟨_, portIs⟩ => read_of_badLimit portIs
  quotes f failed := ⟨f.value, environment_of_read_eq_error failed, rfl⟩
  sound c done := by
    have read := read_eq_ok_iff.1 done
    exact ⟨read, read.isProper, Nat.max_eq_left read.isProper.one_le⟩
  restores _ proper spelt := read_eq_ok_iff.2 (spelt.isReadFrom proper)

end Read

example : read (fun name => if name = portSetting then some " +0080 " else none) =
    .ok { default with port := 80 } := by
  decide

end ServiceConfig

end ClassAtlas
