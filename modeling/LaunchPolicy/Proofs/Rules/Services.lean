import LaunchPolicy.Proofs.Rules.Address

/-!
The variables by which a container finds the services of its namespace, and the rules for them. The
pattern of an address asks for the start of the text also where a name stands before it, so that the
four rules with an address match nothing.
-/

namespace LaunchPolicy.Kubelet

open Pattern

/-- The form of a name within the name of a variable. -/
def IsName (text : String) : Prop :=
  text ≠ "" ∧ ∀ c ∈ text.toList, ('A' ≤ c ∧ c ≤ 'Z') ∨ ('0' ≤ c ∧ c ≤ '9') ∨ c = '_'

def IsProtocol (text : String) : Prop := text ≠ "" ∧ ∀ c ∈ text.toList, 'a' ≤ c ∧ c ≤ 'z'

/-- A service with one of its ports, all names in the form that they take in variables. -/
structure Service where
  name : String
  portName : String
  protocol : String
  port : Nat
  address : Address
  name_form : IsName name
  port_name_form : IsName portName
  protocol_form : IsProtocol protocol

/-- What is told of a service, each in a variable of its own. -/
inductive ServiceVariable where
  | host
  | port
  | namedPort
  | location
  | portLocation
  | portProtocol
  | portNumber
  | portAddress
deriving DecidableEq, Repr

namespace Service

/-- What stands before the parts of one port. -/
def portPrefix (service : Service) : String :=
  service.name ++ "_PORT_" ++ service.port.repr ++ "_" ++ service.protocol.toUpper

def nameOf (service : Service) : ServiceVariable → String
  | .host => service.name ++ "_SERVICE_HOST"
  | .port => service.name ++ "_SERVICE_PORT"
  | .namedPort => service.name ++ "_SERVICE_PORT_" ++ service.portName
  | .location => service.name ++ "_PORT"
  | .portLocation => service.portPrefix
  | .portProtocol => service.portPrefix ++ "_PROTO"
  | .portNumber => service.portPrefix ++ "_PORT"
  | .portAddress => service.portPrefix ++ "_ADDR"

def valueOf (service : Service) : ServiceVariable → String
  | .host | .portAddress => service.address.text
  | .port | .namedPort | .portNumber => service.port.repr
  | .location | .portLocation =>
      service.protocol ++ "://" ++ service.address.text ++ ":" ++ service.port.repr
  | .portProtocol => service.protocol

end Service

/-- A variable that one of the rules for a container matches. -/
def Admitted (name value : String) : Prop :=
  ∃ rule, .text rule ∈ containerRules.process.env ∧ Opens rule (name ++ "=" ++ value)

/-! ### What the rules read -/

def nameSet : CharSet := { ranges := [('_', '_'), ('0', '9'), ('A', 'Z')] }
def upperSet : CharSet := { ranges := [('A', 'Z')] }
def lowerSet : CharSet := { ranges := [('a', 'z')] }

/-- What a rule asks of a variable: what its name reads behind the one of the service, what its
value begins with, and what has to follow. -/
structure Shape where
  name : List Part
  value : List Part
  rest : List Pattern := []

namespace Shape

def nameParts (shape : Shape) : List Part := .run nameSet :: shape.name

def pattern (shape : Shape) : Pattern :=
  sequence (start :: (shape.nameParts ++ .fixed ['='] :: shape.value).flatMap Part.items ++ shape.rest)

end Shape

/-- One port behind a service's name, by its number and protocol. -/
def portParts : List Part :=
  [.fixed "_PORT_".toList, .run .digit, .fixed ['_'], .run upperSet]

def namedPortParts : List Part := [.fixed "_SERVICE_PORT_".toList, .run nameSet]

def shapes : List Shape :=
  [⟨[.fixed "_SERVICE_HOST".toList], [], onlyAddress⟩,
   ⟨[.fixed "_SERVICE_PORT".toList], [.run .digit], []⟩,
   ⟨[.fixed "_SERVICE_PORT_".toList, .run upperSet], [.run .digit], []⟩,
   ⟨namedPortParts, [.run .digit], []⟩,
   ⟨[.fixed "_PORT".toList], [.run lowerSet, .fixed "://".toList], addressAndPort⟩,
   ⟨portParts, [.run lowerSet, .fixed "://".toList], addressAndPort⟩,
   ⟨portParts ++ [.fixed "_PROTO".toList], [.run lowerSet], []⟩,
   ⟨portParts ++ [.fixed "_PORT".toList], [.run .digit], []⟩,
   ⟨portParts ++ [.fixed "_ADDR".toList], [], onlyAddress⟩]

theorem service_env_shapes :
    serviceEnv.map (fun rule => read? rule.outline.toList) = shapes.map fun shape => some shape.pattern := by
  decide +kernel

/-- The rules are strings. -/
private theorem service_env_whole : ∀ rule ∈ serviceEnv, rule = .string rule.outline := by decide

/-- What follows a shape's parts, if anything, is asked for from the start of the text on. -/
private theorem shapes_rest : ∀ shape ∈ shapes, shape.rest = [] ∨ shape.rest.head? = some start := by
  decide

private theorem shapes_lack : ∀ shape ∈ shapes, ∀ part ∈ shape.nameParts, part.lacks '=' = true := by
  decide

namespace Shape

theorem opens_iff {shape : Shape} (asked : shape.rest = [] ∨ shape.rest.head? = some start)
    (text : List Char) :
    shape.pattern.Opens text ↔ shape.rest = [] ∧ ∃ spelled after, text = spelled ++ after ∧
      Spells (shape.nameParts ++ .fixed ['='] :: shape.value) spelled := by
  rw [pattern]
  rcases asked with nothing | first
  · rw [nothing, List.append_nil, opens_parts]
    simp
  · -- behind the service's name, of which there is at least a character
    obtain ⟨rest, asked⟩ := List.head?_eq_some_iff.mp first
    rw [asked]
    constructor
    · intro opens
      exact absurd opens (not_opens_start_behind text)
    · intro opens
      exact absurd opens.1 (List.cons_ne_nil _ _)

/-- The name ends where the first equals sign stands. -/
theorem opens_variable {shape : Shape} {name : List Char} (member : shape ∈ shapes)
    (plain : '=' ∉ name) (value : List Char) :
    shape.pattern.Opens (name ++ '=' :: value) ↔ shape.rest = [] ∧ Spells shape.nameParts name ∧
      ∃ front after, value = front ++ after ∧ Spells shape.value front := by
  rw [opens_iff (shapes_rest shape member)]
  apply and_congr_right
  intro _
  constructor
  · intro opens
    obtain ⟨spelled, after, split, spells⟩ := opens
    obtain ⟨first, rest, rfl, named, sign, front, rfl, rfl, valued⟩ := (spells_append _ _ _).mp spells
    have clear : '=' ∉ first := not_mem_of_spells (shapes_lack shape member) named
    obtain ⟨rfl, rfl⟩ : name = first ∧ value = front ++ after :=
      first_separated plain clear (by simpa using split)
    exact ⟨named, front, after, rfl, valued⟩
  · intro parts
    obtain ⟨named, front, after, rfl, valued⟩ := parts
    refine ⟨name ++ '=' :: front, after, by simp, (spells_append _ _ _).mpr ?_⟩
    exact ⟨name, '=' :: front, rfl, named, ['='], front, rfl, rfl, valued⟩

end Shape

theorem admitted_iff {name : String} (plain : '=' ∉ name.toList) (value : String) :
    Admitted name value ↔ ∃ shape ∈ shapes, shape.rest = [] ∧ Spells shape.nameParts name.toList ∧
      ∃ front after, value.toList = front ++ after ∧ Spells shape.value front := by
  have text : (name ++ "=" ++ value).toList = name.toList ++ '=' :: value.toList := by simp
  have reads : ∀ pattern, (∃ rule ∈ serviceEnv, read? rule.outline.toList = some pattern) ↔
      ∃ shape ∈ shapes, shape.pattern = pattern := by
    intro pattern
    have both := congrArg (some pattern ∈ ·) service_env_shapes
    simpa using both
  constructor
  · intro admitted
    obtain ⟨rule, member, pattern, read, opens⟩ := admitted
    have within : .string rule ∈ serviceEnv := by simpa [containerRules] using member
    obtain ⟨shape, known, rfl⟩ := (reads pattern).mp ⟨rule, within, read⟩
    rw [text] at opens
    exact ⟨shape, known, (Shape.opens_variable known plain _).mp opens⟩
  · intro shaped
    obtain ⟨shape, known, parts⟩ := shaped
    obtain ⟨rule, within, read⟩ := (reads shape.pattern).mpr ⟨shape, known, rfl⟩
    have whole := service_env_whole rule within
    refine ⟨rule.outline, by simpa [containerRules, ← whole] using within, shape.pattern, read, ?_⟩
    rw [text]
    exact (Shape.opens_variable known plain _).mpr parts

/-! ### Names and values -/

theorem name_set_has (c : Char) :
    nameSet.has c = true ↔ ('A' ≤ c ∧ c ≤ 'Z') ∨ ('0' ≤ c ∧ c ≤ '9') ∨ c = '_' := by
  have line : '_' ≤ c ∧ c ≤ '_' ↔ c = '_' := by
    simpa [CharSet.exactly, CharSet.has] using CharSet.exactly_has '_' c
  simp [nameSet, CharSet.has, line]
  tauto

theorem upper_set_has (c : Char) : upperSet.has c = true ↔ 'A' ≤ c ∧ c ≤ 'Z' := by
  simp [upperSet, CharSet.has]

theorem lower_set_has (c : Char) : lowerSet.has c = true ↔ 'a' ≤ c ∧ c ≤ 'z' := by
  simp [lowerSet, CharSet.has]

theorem to_upper_has {c : Char} (low : 'a' ≤ c ∧ c ≤ 'z') : upperSet.has c.toUpper = true := by
  have within : 'a'.val ≤ c.val ∧ c.val ≤ 'z'.val := low
  have upper : c.toUpper.val = c.val + ('A'.val - 'a'.val) := by
    delta Char.toUpper
    rw [dif_pos within]
  rw [upper_set_has, Char.le_def, Char.le_def, upper]
  grind

theorem name_covered {text : String} (form : IsName text) : (Part.run nameSet).Covers text.toList :=
  ⟨by simpa using form.1, fun c member => (name_set_has c).mpr (form.2 c member)⟩

theorem lower_covered {text : String} (form : IsProtocol text) :
    (Part.run lowerSet).Covers text.toList :=
  ⟨by simpa using form.1, fun c member => (lower_set_has c).mpr (form.2 c member)⟩

theorem upper_covered {text : String} (form : IsProtocol text) :
    (Part.run upperSet).Covers text.toUpper.toList := by
  rw [String.toUpper, String.toList_map]
  refine ⟨by simpa using form.1, ?_⟩
  intro c member
  obtain ⟨lower, within, rfl⟩ := List.mem_map.mp member
  exact to_upper_has (form.2 lower within)

theorem digit_covered (n : Nat) : (Part.run .digit).Covers n.repr.toList := by
  rw [Nat.toList_repr]
  exact ⟨Nat.toDigits_ne_nil, fun c member => digits_digital member⟩

theorem begins_both {set other : CharSet} {text : List Char} (first : Begins set text)
    (second : Begins other text) : ∃ c, set.has c = true ∧ other.has c = true := by
  obtain ⟨c, rest, rfl, here⟩ := first
  obtain ⟨d, others, same, there⟩ := second
  obtain ⟨rfl, -⟩ := List.cons.inj same
  exact ⟨c, here, there⟩

theorem not_begins_both {text : List Char} (digit : Begins .digit text)
    (letter : Begins lowerSet text) : False := by
  obtain ⟨c, first, second⟩ := begins_both digit letter
  have low := ((lower_set_has c).mp second).1
  exact absurd (Char.le_trans low ((digit_has c).mp first).2) (by decide)

theorem not_covers_both {text : List Char} (digits : (Part.run .digit).Covers text)
    (letters : (Part.run upperSet).Covers text) : False := by
  obtain ⟨c, first, second⟩ := begins_both (begins_append digits []) (begins_append letters [])
  have low := ((upper_set_has c).mp second).1
  exact absurd (Char.le_trans low ((digit_has c).mp first).2) (by decide)

/-- The five rules without an address. -/
theorem admitted_cases {name : String} (plain : '=' ∉ name.toList) (value : String) :
    Admitted name value ↔
      (Spells [.run nameSet, .fixed "_SERVICE_PORT".toList] name.toList ∧
        Begins .digit value.toList) ∨
      (Spells [.run nameSet, .fixed "_SERVICE_PORT_".toList, .run upperSet] name.toList ∧
        Begins .digit value.toList) ∨
      (Spells (.run nameSet :: namedPortParts) name.toList ∧ Begins .digit value.toList) ∨
      (Spells (.run nameSet :: (portParts ++ [.fixed "_PROTO".toList])) name.toList ∧
        Begins lowerSet value.toList) ∨
      (Spells (.run nameSet :: (portParts ++ [.fixed "_PORT".toList])) name.toList ∧
        Begins .digit value.toList) := by
  have rests : ∀ items : List Pattern, start :: items ≠ [] := List.cons_ne_nil start
  rw [admitted_iff plain]
  simp only [shapes, List.mem_cons, List.not_mem_nil, or_false, exists_eq_or_imp, exists_eq_left,
    run_opens_iff, Shape.nameParts, onlyAddress, addressAndPort, rests, false_and, false_or, true_and]

/-- A name reads as that of a variable for a named port. -/
def NamesPort (name : String) : Prop :=
  ∃ before after, before ≠ "" ∧ after ≠ "" ∧ name = before ++ "_SERVICE_PORT_" ++ after

theorem names_port_of_spells {name : String} {set : CharSet}
    (spells : Spells [.run nameSet, .fixed "_SERVICE_PORT_".toList, .run set] name.toList) :
    NamesPort name := by
  obtain ⟨before, rest, split, first, -, back, rfl, rfl, after, -, rfl, last, rfl⟩ := spells
  refine ⟨String.ofList before, String.ofList after, ?_, ?_, ?_⟩
  · simpa using first.1
  · simpa using last.1
  · simp [← String.toList_inj, split]

theorem spells_named_port {name : String} (form : ∀ c ∈ name.toList, nameSet.has c = true)
    (named : NamesPort name) : Spells (.run nameSet :: namedPortParts) name.toList := by
  obtain ⟨before, after, first, last, rfl⟩ := named
  simp only [String.toList_append, List.forall_mem_append] at form
  refine ⟨before.toList, "_SERVICE_PORT_".toList ++ after.toList, by simp, ⟨by simpa using first, form.1.1⟩,
    "_SERVICE_PORT_".toList, after.toList, rfl, rfl, after.toList, [], by simp,
    ⟨by simpa using last, form.2⟩, rfl⟩

theorem admitted_letter {name value : String} (plain : '=' ∉ name.toList)
    (letter : Begins lowerSet value.toList) :
    Admitted name value ↔
      Spells (.run nameSet :: (portParts ++ [.fixed "_PROTO".toList])) name.toList := by
  have noDigit : ¬ Begins .digit value.toList := fun digit => not_begins_both digit letter
  simp only [admitted_cases plain, noDigit, letter, and_false, and_true, false_or, or_false]

theorem admitted_digit {name value : String} (plain : '=' ∉ name.toList)
    (digit : Begins .digit value.toList) :
    Admitted name value ↔
      Spells [.run nameSet, .fixed "_SERVICE_PORT".toList] name.toList ∨
      Spells [.run nameSet, .fixed "_SERVICE_PORT_".toList, .run upperSet] name.toList ∨
      Spells (.run nameSet :: namedPortParts) name.toList ∨
      Spells (.run nameSet :: (portParts ++ [.fixed "_PORT".toList])) name.toList := by
  have noLetter : ¬ Begins lowerSet value.toList := fun letter => not_begins_both digit letter
  simp only [admitted_cases plain, noLetter, digit, and_false, and_true, false_or]

/-- A variable with a number, and another last word than a port's, is only taken for that of a named
port. -/
theorem admitted_digit_iff {name value : String} (form : ∀ c ∈ name.toList, nameSet.has c = true)
    {front last : List Char} (ends : name.toList = front ++ '_' :: last) (clear : '_' ∉ last)
    (other : last ≠ "PORT".toList) (digit : Begins .digit value.toList) :
    Admitted name value ↔ NamesPort name := by
  have plain : '=' ∉ name.toList := fun member => absurd (form '=' member) (by decide)
  -- the rules for a port without a name end in this word, that for a named one may end in any
  have noPort : ∀ most : List Char, name.toList ≠ most ++ "_PORT".toList := by
    intro most same
    exact other (last_separated clear (by decide) (ends.symm.trans same)).2
  have service : "_SERVICE_PORT".toList = "_SERVICE".toList ++ "_PORT".toList := by decide
  rw [admitted_digit plain digit]
  constructor
  · rintro (port | letters | named | numbered)
    · obtain ⟨most, same, -⟩ := (spells_fixed_last [.run nameSet] _ _).mp port
      rw [service, ← List.append_assoc] at same
      exact absurd same (noPort _)
    · exact names_port_of_spells letters
    · exact names_port_of_spells named
    · obtain ⟨most, same, -⟩ := (spells_fixed_last (.run nameSet :: portParts) _ _).mp numbered
      exact absurd same (noPort most)
  · intro named
    exact .inr (.inr (.inl (spells_named_port form named)))

/-- A variable with a word is only taken for the protocol of a port. -/
theorem letter_ends {name value : String} (plain : '=' ∉ name.toList)
    (letter : Begins lowerSet value.toList) {front last : List Char}
    (ends : name.toList = front ++ '_' :: last) (clear : '_' ∉ last) (admitted : Admitted name value) :
    last = "PROTO".toList ∧ ∃ most protocol, front = most ++ '_' :: protocol ∧
      (Part.run upperSet).Covers protocol := by
  have spells := (admitted_letter plain letter).mp admitted
  obtain ⟨most, same, others⟩ := (spells_fixed_last (.run nameSet :: portParts) _ _).mp spells
  obtain ⟨rfl, rfl⟩ := last_separated clear (by decide) (ends.symm.trans same)
  obtain ⟨first, back, rfl, -, -, rest, rfl, rfl, protocol, -, rfl, letters, rfl⟩ :=
    (spells_append [.run nameSet, .fixed "_PORT_".toList, .run .digit] _ _).mp others
  exact ⟨rfl, first, protocol, by simp, letters⟩

theorem address_begins (address : Address) : Begins .digit address.text.toList := by
  have first := digit_covered address.first.toNat
  simpa [Address.text] using begins_append first _

theorem number_begins (n : Nat) : Begins .digit n.repr.toList := by
  simpa using begins_append (digit_covered n) []

namespace Service

theorem name_of_form (service : Service) (which : ServiceVariable) :
    ∀ c ∈ (service.nameOf which).toList, nameSet.has c = true := by
  have named := (name_covered service.name_form).2
  have portNamed := (name_covered service.port_name_form).2
  have number : ∀ c ∈ service.port.repr.toList, nameSet.has c = true := fun c member =>
    (name_set_has c).mpr (.inr (.inl ((digit_has c).mp ((digit_covered service.port).2 c member))))
  have protocol : ∀ c ∈ service.protocol.toUpper.toList, nameSet.has c = true := fun c member =>
    (name_set_has c).mpr (.inl ((upper_set_has c).mp ((upper_covered service.protocol_form).2 c member)))
  have portPrefix : ∀ c ∈ service.portPrefix.toList, nameSet.has c = true := by
    simp only [Service.portPrefix, String.toList_append, List.forall_mem_append]
    exact ⟨⟨⟨⟨named, List.all_eq_true.mp (by decide)⟩, number⟩, List.all_eq_true.mp (by decide)⟩, protocol⟩
  cases which with
  | portLocation => exact portPrefix
  | namedPort =>
      simp only [nameOf, String.toList_append, List.forall_mem_append]
      exact ⟨⟨named, List.all_eq_true.mp (by decide)⟩, portNamed⟩
  | host | port | location =>
      simp only [nameOf, String.toList_append, List.forall_mem_append]
      exact ⟨named, List.all_eq_true.mp (by decide)⟩
  | portProtocol | portNumber | portAddress =>
      simp only [nameOf, String.toList_append, List.forall_mem_append]
      exact ⟨portPrefix, List.all_eq_true.mp (by decide)⟩

theorem name_plain (service : Service) (which : ServiceVariable) :
    '=' ∉ (service.nameOf which).toList :=
  fun member => absurd (service.name_of_form which '=' member) (by decide)

theorem protocol_begins (service : Service) (rest : List Char) :
    Begins lowerSet (service.protocol.toList ++ rest) :=
  begins_append (lower_covered service.protocol_form) rest

theorem port_prefix_spells (service : Service) :
    Spells (.run nameSet :: portParts) service.portPrefix.toList := by
  refine ⟨service.name.toList, _, by simp [portPrefix], name_covered service.name_form,
    "_PORT_".toList, _, rfl, rfl, service.port.repr.toList, _, rfl, digit_covered service.port,
    ['_'], _, rfl, rfl, service.protocol.toUpper.toList, [], (List.append_nil _).symm,
    upper_covered service.protocol_form, rfl⟩

/-- A variable, set as the kubelet sets it, is matched by one of the rules. -/
def Admits (service : Service) (which : ServiceVariable) : Prop :=
  Admitted (service.nameOf which) (service.valueOf which)

variable (service : Service)

theorem admits_port : service.Admits .port := by
  refine (admitted_digit (service.name_plain .port) (number_begins service.port)).mpr (.inl ?_)
  exact (spells_fixed_last [.run nameSet] _ _).mpr ⟨service.name.toList, by simp [nameOf],
    service.name.toList, [], by simp, name_covered service.name_form, rfl⟩

theorem admits_named_port : service.Admits .namedPort := by
  have named : NamesPort (service.nameOf .namedPort) :=
    ⟨service.name, service.portName, service.name_form.1, service.port_name_form.1, rfl⟩
  refine (admitted_digit (service.name_plain .namedPort) (number_begins service.port)).mpr ?_
  exact .inr (.inr (.inl (spells_named_port (service.name_of_form .namedPort) named)))

theorem admits_port_protocol : service.Admits .portProtocol := by
  have letter : Begins lowerSet (service.valueOf .portProtocol).toList := by
    simpa [valueOf] using service.protocol_begins []
  refine (admitted_letter (service.name_plain .portProtocol) letter).mpr ?_
  exact (spells_fixed_last (.run nameSet :: portParts) _ _).mpr
    ⟨service.portPrefix.toList, by simp [nameOf], service.port_prefix_spells⟩

theorem admits_port_number : service.Admits .portNumber := by
  refine (admitted_digit (service.name_plain .portNumber) (number_begins service.port)).mpr ?_
  exact .inr (.inr (.inr ((spells_fixed_last (.run nameSet :: portParts) _ _).mpr
    ⟨service.portPrefix.toList, by simp [nameOf], service.port_prefix_spells⟩)))

theorem location_begins : Begins lowerSet (service.valueOf .location).toList := by
  simpa only [valueOf, String.toList_append, List.append_assoc] using service.protocol_begins _

theorem not_admits_location : ¬ service.Admits .location := by
  intro admits
  have ends : (service.nameOf .location).toList = service.name.toList ++ '_' :: "PORT".toList := by
    simp [nameOf]
  have last := (letter_ends (service.name_plain .location) service.location_begins ends (by decide)
    admits).1
  exact absurd last (by decide)

/-- Before the protocol stands the number of the port, which is no word. -/
theorem not_admits_port_location : ¬ service.Admits .portLocation := by
  intro admits
  have ends : (service.nameOf .portLocation).toList =
      (service.name.toList ++ "_PORT".toList ++ '_' :: service.port.repr.toList) ++
        '_' :: service.protocol.toUpper.toList := by
    simp [nameOf, portPrefix]
  have digits := digit_covered service.port
  have letters := upper_covered service.protocol_form
  obtain ⟨-, most, word, same, covered⟩ := letter_ends (service.name_plain .portLocation)
    service.location_begins ends (fun member => absurd (letters.2 '_' member) (by decide)) admits
  have number : service.port.repr.toList = word :=
    (last_separated (fun member => absurd (digits.2 '_' member) (by decide))
      (fun member => absurd (covered.2 '_' member) (by decide)) same).2
  rw [← number] at covered
  exact not_covers_both digits covered

theorem admits_host_iff : service.Admits .host ↔ NamesPort (service.nameOf .host) := by
  have ends : (service.nameOf .host).toList =
      (service.name.toList ++ "_SERVICE".toList) ++ '_' :: "HOST".toList := by
    simp [nameOf]
  exact admitted_digit_iff (service.name_of_form .host) ends (by decide) (by decide)
    (address_begins service.address)

theorem admits_port_address_iff :
    service.Admits .portAddress ↔ NamesPort (service.nameOf .portAddress) := by
  have ends : (service.nameOf .portAddress).toList =
      service.portPrefix.toList ++ '_' :: "ADDR".toList := by
    simp [nameOf]
  exact admitted_digit_iff (service.name_of_form .portAddress) ends (by decide) (by decide)
    (address_begins service.address)

/-- Of the variables for a service the rules match those without an address. One with a location is
never matched, and one with an address alone only where its name is taken for that of a named port,
though the pattern of an address matches each on its own. -/
theorem discovery_admitted (service : Service) :
    service.Admits .port ∧ service.Admits .namedPort ∧ service.Admits .portProtocol ∧
    service.Admits .portNumber ∧
    ¬ service.Admits .location ∧ ¬ service.Admits .portLocation ∧
    (service.Admits .host ↔ NamesPort (service.nameOf .host)) ∧
    (service.Admits .portAddress ↔ NamesPort (service.nameOf .portAddress)) ∧
    Opens (addressPattern ++ "$") service.address.text ∧
    Opens (addressPattern ++ ":[0-9]+") (service.address.text ++ ":" ++ service.port.repr) :=
  ⟨service.admits_port, service.admits_named_port, service.admits_port_protocol,
    service.admits_port_number, service.not_admits_location, service.not_admits_port_location,
    service.admits_host_iff, service.admits_port_address_iff,
    host_pattern_opens service.address, location_pattern_opens service.address service.port⟩

/-- The service of a store with one port. -/
def store : Service where
  name := "REDIS"
  portName := "HTTP"
  protocol := "tcp"
  port := 6379
  address := ⟨10, 0, 0, 11⟩
  name_form := ⟨by decide, by simp⟩
  port_name_form := ⟨by decide, by simp⟩
  protocol_form := ⟨by decide, by simp⟩

/-- The address of a service is refused. -/
theorem store_host_refused :
    store.nameOf .host = "REDIS_SERVICE_HOST" ∧ store.valueOf .host = "10.0.0.11" ∧
    ¬ store.Admits .host := by
  refine ⟨by decide +kernel, by decide +kernel, ?_⟩
  rw [admits_host_iff]
  intro named
  obtain ⟨before, after, -, -, split⟩ := named
  have within : "_SERVICE_PORT_".toList <:+: (store.nameOf .host).toList :=
    ⟨before.toList, after.toList, by rw [split]; simp⟩
  exact absurd within (by decide +kernel)

end Service

end LaunchPolicy.Kubelet
