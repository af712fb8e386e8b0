import DispatchServer.Configuration.Load
import DispatchServer.Proofs.Reading

/-! The configuration that a file and the arguments make together. -/
namespace DispatchServer

namespace Config

section

open Json

def AgreesAt (a b : Config) : ConfigKey → Prop
  | .threads => a.threads = b.threads
  | .memoryMb => a.memoryMb = b.memoryMb
  | .deviceMb => a.deviceMb = b.deviceMb
  | .lockPages => a.lockPages = b.lockPages
  | .verbosity => a.verbosity = b.verbosity

def Unset (config : Config) : ConfigKey → Prop
  | .threads => config.threads = 0
  | .memoryMb => config.memoryMb = 256
  | .deviceMb => config.deviceMb = [128]
  | .lockPages => config.lockPages = false
  | .verbosity => config.verbosity = .default

/-- The text is that of the value which the configuration has for the key. -/
inductive Value (config : Config) : List Char → ConfigKey → Prop
  | threads {text : List Char} (written : Integer text config.threads.toNat) :
      Value config text .threads
  | memoryMb {text : List Char} (written : Integer text config.memoryMb.toNat) :
      Value config text .memoryMb
  | deviceMb {text : List Char}
      (written : Listed (fun text mb => Integer text mb.toNat) text config.deviceMb) :
      Value config text .deviceMb
  | lockPages {text : List Char} (written : Truth text config.lockPages) :
      Value config text .lockPages
  | verbosity {text : List Char} {name : String} (written : Choice text name)
      (known : (name, config.verbosity) ∈ [("terse", Verbosity.terse), ("default", .default),
        ("verbose", .verbose)]) : Value config text .verbosity

/-- A key with its value. -/
inductive Member (config : Config) : List Char → ConfigKey → Prop
  | member {quoted space text : List Char} {name : String} {key : ConfigKey}
      (named : Quoted quoted name)
      (known : (name, key) ∈ [("num_threads", ConfigKey.threads), ("shmem_size_mb", .memoryMb),
        ("device_max_alloc_mb", .deviceMb), ("lock_pages", .lockPages),
        ("log_verbosity", .verbosity)])
      (colon : Blank space) (value : Value config text key) :
      Member config (quoted ++ (space ++ ':' :: text)) key

inductive Written (config : Config) : List Char → Prop
  | object {before members after : List Char} {given : List ConfigKey} (opens : Blank before)
      (series : Series (Member config) true members given) (once : given.Nodup)
      (others : ∀ key, key ∉ given → config.Unset key) (closes : Blank after) :
      Written config (before ++ '\x7b' :: (members ++ '\x7d' :: after))
  | list {before values after : List Char} {given : List ConfigKey} (opens : Blank before)
      (series : Series (Value config) true values given)
      (order : given <+: [.threads, .memoryMb, .deviceMb, .lockPages, .verbosity])
      (others : ∀ key, key ∉ given → config.Unset key) (closes : Blank after) :
      Written config (before ++ '[' :: (values ++ ']' :: after))

variable {config next last : Config} {left rest written text : List Char}
  {keys seen given : List ConfigKey} {key other : ConfigKey} {first : Bool} {fuel : Nat}

theorem AgreesAt.refl (config : Config) (key : ConfigKey) : config.AgreesAt config key := by
  cases key <;> rfl

theorem AgreesAt.trans {a b c : Config} (first : a.AgreesAt b key) (second : b.AgreesAt c key) :
    a.AgreesAt c key := by
  cases key <;> exact Eq.trans first second

theorem AgreesAt.symm {a b : Config} (agrees : a.AgreesAt b key) : b.AgreesAt a key := by
  cases key <;> exact Eq.symm agrees

theorem eq_of_agrees {a b : Config} (agrees : ∀ key, a.AgreesAt b key) : a = b := by
  cases a
  cases b
  exact mk.injEq .. ▸ ⟨agrees .threads, agrees .memoryMb, agrees .deviceMb, agrees .lockPages,
    agrees .verbosity⟩

theorem unset_iff : config.Unset key ↔ config.AgreesAt initial key := by
  cases key <;> rfl

theorem Value.congr {a b : Config} (value : Value a text key) (agrees : a.AgreesAt b key) :
    Value b text key := by
  cases value with
  | threads written => exact .threads ((agrees : a.threads = b.threads) ▸ written)
  | memoryMb written => exact .memoryMb ((agrees : a.memoryMb = b.memoryMb) ▸ written)
  | deviceMb written => exact .deviceMb ((agrees : a.deviceMb = b.deviceMb) ▸ written)
  | lockPages written => exact .lockPages ((agrees : a.lockPages = b.lockPages) ▸ written)
  | verbosity written known =>
    exact .verbosity written ((agrees : a.verbosity = b.verbosity) ▸ known)

theorem Member.congr {a b : Config} (member : Member a text key) (agrees : a.AgreesAt b key) :
    Member b text key := by
  obtain ⟨named, known, colon, value⟩ := member
  exact .member named known colon (value.congr agrees)

theorem ofName?_iff {name : String} : ConfigKey.ofName? name = some key ↔
    (name, key) ∈ [("num_threads", ConfigKey.threads), ("shmem_size_mb", .memoryMb),
      ("device_max_alloc_mb", .deviceMb), ("lock_pages", .lockPages),
      ("log_verbosity", .verbosity)] := by
  constructor
  · intro h
    have named := List.find?_some h
    obtain rfl : key.name = name := by simpa using named
    cases key <;> simp [ConfigKey.name]
  · intro member
    simp only [List.mem_cons, Prod.mk.injEq, List.not_mem_nil, or_false] at member
    rcases member with ⟨rfl, rfl⟩ | ⟨rfl, rfl⟩ | ⟨rfl, rfl⟩ | ⟨rfl, rfl⟩ | ⟨rfl, rfl⟩ <;>
      decide

theorem verbosity_iff {name : String} {verbosity : Verbosity} :
    Verbosity.ofName? name = some verbosity ↔ (name, verbosity) ∈ [("terse", Verbosity.terse),
      ("default", .default), ("verbose", .verbose)] := by
  constructor
  · intro h
    have named := List.find?_some h
    obtain rfl : verbosity.name = name := by simpa using named
    cases verbosity <;> simp [Verbosity.name]
  · intro member
    simp only [List.mem_cons, Prod.mk.injEq, List.not_mem_nil, or_false] at member
    rcases member with ⟨rfl, rfl⟩ | ⟨rfl, rfl⟩ | ⟨rfl, rfl⟩ <;> decide

theorem reads_threads : Reads readThreads fun text n => Integer text n.toNat := by
  refine ((reads_unsigned (by decide) "u32").map Nat.toUInt32).congr fun text n => ⟨?_, fun h => ?_⟩
  · rintro ⟨m, ⟨digits, less⟩, rfl⟩
    rwa [Nat.toUInt32, UInt32.toNat_ofNat_of_lt' less]
  · exact ⟨_, ⟨h, n.toNat_lt⟩, UInt32.ofNat_toNat⟩

theorem reads_word : Reads readWord fun text n => Integer text n.toNat := by
  refine ((reads_unsigned (by decide) "u64").map Nat.toUInt64).congr fun text n => ⟨?_, fun h => ?_⟩
  · rintro ⟨m, ⟨digits, less⟩, rfl⟩
    rwa [Nat.toUInt64, UInt64.toNat_ofNat_of_lt' less]
  · exact ⟨_, ⟨h, n.toNat_lt⟩, UInt64.ofNat_toNat⟩

theorem reads_verbosity : Reads readVerbosity fun text verbosity => ∃ name, Choice text name ∧
    (name, verbosity) ∈ [("terse", Verbosity.terse), ("default", .default),
      ("verbose", .verbose)] :=
  (reads_variant _ _).congr fun text verbosity => by simp only [verbosity_iff]

/-- A reader that sets one value of the configuration. -/
theorem reads_field {α : Type} {read : List Char → Read α} {item : List Char → α → Prop}
    (reads : Reads read item) {key : ConfigKey} (field : Config → α) (set : α → Config)
    (told : ∀ text next, Value next text key ↔ item text (field next))
    (has : ∀ value, field (set value) = value)
    (same : ∀ next, (set (field next)).AgreesAt next key)
    (others : ∀ value other, other ≠ key → (set value).AgreesAt config other) :
    Reads (fun left => (read left).map fun (value, left) => (set value, left)) fun text next =>
      Value next text key ∧ ∀ other, other ≠ key → next.AgreesAt config other := by
  refine (reads.map set).congr fun text next => ⟨?_, fun ⟨value, agrees⟩ => ?_⟩
  · rintro ⟨value, one, rfl⟩
    exact ⟨(told _ _).2 (by rwa [has]), others value⟩
  · refine ⟨field next, (told _ _).1 value, eq_of_agrees fun other => ?_⟩
    by_cases here : other = key
    · exact here ▸ same next
    · exact (others _ other here).trans (agrees other here).symm

/-- A value is read into the configuration, of which the rest stays as it is. -/
theorem reads_value (config : Config) (key : ConfigKey) :
    Reads (fun left => config.readValue left key) fun text next =>
      Value next text key ∧ ∀ other, other ≠ key → next.AgreesAt config other := by
  cases key with
  | threads =>
    refine reads_field reads_threads threads (fun n => { config with threads := n })
      (fun text next => ⟨fun | .threads written => written, .threads⟩) (fun _ => rfl)
      (fun _ => rfl) ?_
    rintro value (_ | _) apart <;> trivial
  | memoryMb =>
    refine reads_field reads_word memoryMb (fun n => { config with memoryMb := n })
      (fun text next => ⟨fun | .memoryMb written => written, .memoryMb⟩) (fun _ => rfl)
      (fun _ => rfl) ?_
    rintro value (_ | _) apart <;> trivial
  | deviceMb =>
    refine reads_field (reads_list reads_word) deviceMb (fun ns => { config with deviceMb := ns })
      (fun text next => ⟨fun | .deviceMb written => written, .deviceMb⟩) (fun _ => rfl)
      (fun _ => rfl) ?_
    rintro value (_ | _) apart <;> trivial
  | lockPages =>
    refine reads_field reads_boolean lockPages (fun b => { config with lockPages := b })
      (fun text next => ⟨fun | .lockPages written => written, .lockPages⟩) (fun _ => rfl)
      (fun _ => rfl) ?_
    rintro value (_ | _) apart <;> trivial
  | verbosity =>
    refine reads_field reads_verbosity verbosity (fun v => { config with verbosity := v })
      (fun text next => ⟨fun | .verbosity written known => ⟨_, written, known⟩,
        fun ⟨_, written, known⟩ => .verbosity written known⟩) (fun _ => rfl) (fun _ => rfl) ?_
    rintro value (_ | _) apart <;> trivial

theorem series_of_readKeys (h : readKeys fuel seen config left = .ok (last, rest)) :
    ∃ written given after, left = written ++ rest ∧ rest = '\x7d' :: after ∧
      Series (Member last) seen.isEmpty written given ∧ given.Nodup ∧
      (∀ key ∈ given, key ∉ seen) ∧ ∀ key, key ∉ given → last.AgreesAt config key := by
  induction fuel generalizing seen config left with
  | zero => cases h
  | succ fuel ih =>
    unfold readKeys at h
    split at h
    · cases h
    · rename_i ends
      cases h
      obtain ⟨space, after, blank, rfl, rfl⟩ := nextKey_none_iff.1 ends
      exact ⟨space, [], after, rfl, rfl, .ends blank, List.nodup_nil, by simp,
        fun key _ => .refl _ key⟩
    · rename_i name named more
      obtain ⟨lead, quoted, leads, rfl, names⟩ := nextKey_some_iff.1 more
      split at h
      · cases h
      · rename_i key known
        split at h
        · cases h
        · rename_i new
          split at h
          · cases h
          · rename_i told
            obtain ⟨space, colon, rfl⟩ := colon_iff.1 told
            split at h
            · cases h
            · rename_i next read set
              obtain ⟨text, rfl, value, others⟩ := (reads_value config key).sound set
              obtain ⟨written, given, after, rfl, rfl, series, once, fresh, agrees⟩ := ih h
              have outside : key ∉ given := fun member => fresh key member List.mem_cons_self
              refine ⟨_, key :: given, after, ?_, rfl, .more leads (.member names
                (ofName?_iff.1 known) colon (value.congr (agrees key outside).symm)) series,
                List.nodup_cons.2 ⟨outside, once⟩, ?_, fun other apart => ?_⟩
              · simp
              · refine List.forall_mem_cons.2 ⟨by simpa using new, fun other member old => ?_⟩
                exact fresh other member (List.mem_cons_of_mem _ old)
              · rw [List.mem_cons, not_or] at apart
                exact (agrees other apart.2).trans (others other apart.1)

theorem series_of_readPositions (nodup : keys.Nodup)
    (h : readPositions config left first keys = .ok (last, rest)) :
    ∃ written given, left = written ++ rest ∧ Series (Value last) first written given ∧
      given <+: keys ∧ ∀ key, key ∉ given → last.AgreesAt config key := by
  induction keys generalizing first config left with
  | nil =>
    cases h
    exact ⟨[], [], rfl, .ends nofun, List.nil_prefix, fun key _ => .refl _ key⟩
  | cons key keys ih =>
    obtain ⟨outside, nodup⟩ := List.nodup_cons.1 nodup
    unfold readPositions at h
    split at h
    · cases h
    · rename_i ends
      cases h
      obtain ⟨space, after, blank, rfl, rfl⟩ := nextElement_false_iff.1 ends
      exact ⟨space, [], rfl, .ends blank, List.nil_prefix, fun key _ => .refl _ key⟩
    · rename_i more
      obtain ⟨lead, after, leads, rfl, rfl, -⟩ := nextElement_true_iff.1 more
      split at h
      · cases h
      · rename_i next read set
        rw [(reads_value config key).blank] at set
        obtain ⟨text, rfl, value, others⟩ := (reads_value config key).sound set
        obtain ⟨written, given, rfl, series, order, agrees⟩ := ih nodup h
        have apart : key ∉ given := fun member => outside (order.subset member)
        refine ⟨_, key :: given, ?_, .more leads (value.congr (agrees key apart).symm) series,
          List.cons_prefix_cons.2 ⟨rfl, order⟩, fun other apart => ?_⟩
        · simp
        · rw [List.mem_cons, not_or] at apart
          exact (agrees other apart.2).trans (others other apart.1)

/-- The value that one configuration has for a key can be set in another one. -/
theorem exists_set (config last : Config) (key : ConfigKey) :
    ∃ next : Config, next.AgreesAt last key ∧
      ∀ other, other ≠ key → next.AgreesAt config other := by
  cases key with
  | threads => exact ⟨{ config with threads := last.threads }, rfl, by rintro (_ | _) _ <;> trivial⟩
  | memoryMb =>
    exact ⟨{ config with memoryMb := last.memoryMb }, rfl, by rintro (_ | _) _ <;> trivial⟩
  | deviceMb =>
    exact ⟨{ config with deviceMb := last.deviceMb }, rfl, by rintro (_ | _) _ <;> trivial⟩
  | lockPages =>
    exact ⟨{ config with lockPages := last.lockPages }, rfl, by rintro (_ | _) _ <;> trivial⟩
  | verbosity =>
    exact ⟨{ config with verbosity := last.verbosity }, rfl, by rintro (_ | _) _ <;> trivial⟩

theorem readValue_of_value (config : Config) (value : Value last text key) (stops : Stops rest) :
    ∃ next, config.readValue (text ++ rest) key = .ok (next, rest) ∧ next.AgreesAt last key ∧
      ∀ other, other ≠ key → next.AgreesAt config other := by
  obtain ⟨next, here, others⟩ := exists_set config last key
  have value := value.congr here.symm
  exact ⟨next, (reads_value config key).complete ⟨value, others⟩ stops, here, others⟩

theorem readKeys_of_series (config : Config) (seen : List ConfigKey) (rest : List Char)
    (series : Series (Member last) first written given) (start : first = seen.isEmpty)
    (once : given.Nodup) (fresh : ∀ key ∈ given, key ∉ seen) (enough : written.length < fuel) :
    ∃ read, readKeys fuel seen config (written ++ '\x7d' :: rest) = .ok (read, '\x7d' :: rest) ∧
      (∀ key ∈ given, read.AgreesAt last key) ∧ ∀ key, key ∉ given → read.AgreesAt config key := by
  induction series generalizing seen config fuel with
  | @ends first space blank =>
    obtain ⟨fuel, rfl⟩ := Nat.exists_eq_add_of_lt enough
    refine ⟨config, ?_, by simp, fun key _ => .refl _ key⟩
    rw [readKeys, nextKey_none_iff.2 ⟨space, rest, blank, rfl, rfl⟩]
  | @more first lead _ left key given leads member series ih =>
    obtain ⟨fuel, rfl⟩ := Nat.exists_eq_add_of_lt (Nat.zero_lt_of_lt enough)
    obtain @⟨quoted, space, text, name, _, named, known, colon, value⟩ := member
    obtain ⟨new, fresh⟩ := List.forall_mem_cons.1 fresh
    obtain ⟨outside, once⟩ := List.nodup_cons.1 once
    obtain ⟨next, set, here, kept⟩ :=
      readValue_of_value config value (series.stops (c := '\x7d') (by decide) rest)
    have others : ∀ other ∈ given, other ∉ key :: seen := by
      intro other member old
      rcases List.mem_cons.1 old with rfl | old
      · exact outside member
      · exact fresh other member old
    have less : left.length < fuel := by
      simp only [List.length_append, List.length_cons] at enough
      omega
    obtain ⟨read, whole, agrees, same⟩ := ih next (key :: seen) rfl once others less
    refine ⟨read, ?_, ?_, ?_⟩
    · have more : nextKey seen.isEmpty (lead ++ (quoted ++ (space ++ ':' :: (text ++
          (left ++ '\x7d' :: rest))))) = .ok (some name, _) :=
        nextKey_some_iff.2 ⟨lead, quoted, start ▸ leads, rfl, named⟩
      simp only [List.append_assoc, List.cons_append, Nat.zero_add, readKeys, more,
        ofName?_iff.2 known, List.contains_iff_mem, new, colon_iff.2 ⟨space, colon, rfl⟩, set,
        whole]
      rfl
    · exact List.forall_mem_cons.2 ⟨(same key outside).trans here, agrees⟩
    · intro other apart
      rw [List.mem_cons, not_or] at apart
      exact (same other apart.2).trans (kept other apart.1)

theorem readPositions_of_series (config : Config) (rest : List Char)
    (series : Series (Value last) first written given) (order : given <+: keys)
    (once : keys.Nodup) :
    ∃ read space, Blank space ∧ readPositions config (written ++ ']' :: rest) first keys =
        .ok (read, space ++ ']' :: rest) ∧
      (∀ key ∈ given, read.AgreesAt last key) ∧ ∀ key, key ∉ given → read.AgreesAt config key := by
  induction series generalizing config keys with
  | @ends first space blank =>
    cases keys with
    | nil => exact ⟨config, space, blank, rfl, by simp, fun key _ => .refl _ key⟩
    | cons key keys =>
      refine ⟨config, [], nofun, ?_, by simp, fun key _ => .refl _ key⟩
      rw [readPositions, nextElement_false_iff.2 ⟨space, rest, blank, rfl, rfl⟩]
      rfl
  | @more first lead text left key given leads value series ih =>
    obtain ⟨later, rfl⟩ := order
    obtain ⟨outside, once⟩ := List.nodup_cons.1 once
    obtain ⟨next, here, kept⟩ := exists_set config last key
    obtain ⟨start, more, set⟩ := (reads_value config key).next leads
      ⟨value.congr here.symm, kept⟩ (series.stops (c := ']') (by decide) rest)
    obtain ⟨read, space, blank, whole, agrees, same⟩ := ih next ⟨later, rfl⟩ once
    refine ⟨read, space, blank, ?_, ?_, ?_⟩
    · simp only [List.append_assoc, List.cons_append, readPositions, more, set]
      exact whole
    · have apart : key ∉ given := fun member => outside (List.mem_append_left _ member)
      exact List.forall_mem_cons.2 ⟨(same key apart).trans here, agrees⟩
    · intro other apart
      rw [List.mem_cons, not_or] at apart
      exact (same other apart.2).trans (kept other apart.1)

/-- A configuration is told by the keys that are given and by those that are not. -/
theorem eq_of_given {read : Config} (agrees : ∀ key ∈ given, read.AgreesAt last key)
    (same : ∀ key, key ∉ given → read.AgreesAt initial key)
    (others : ∀ key, key ∉ given → last.Unset key) : read = last := by
  refine eq_of_agrees fun key => ?_
  by_cases member : key ∈ given
  · exact agrees key member
  · exact (same key member).trans (unset_iff.1 (others key member)).symm

theorem written_of_readBody (h : readBody text = .ok (config, rest)) (closes : Blank rest) :
    Written config text := by
  unfold readBody at h
  split at h
  · cases h
  · obtain ⟨before, opens, rfl⟩ := eq_of_skipBlank ‹_›
    split at h
    · cases h
    · rename_i values
      obtain ⟨_, last, ⟨⟩⟩ := map_eq_ok.1 h
      obtain ⟨written, given, rfl, series, order, others⟩ :=
        series_of_readPositions (by decide) values
      obtain ⟨space, blank, rfl⟩ := endList_iff.1 last
      rw [← List.append_assoc]
      exact .list opens (series.append blank) order
        (fun key outside => unset_iff.2 (others key outside)) closes
  · obtain ⟨before, opens, rfl⟩ := eq_of_skipBlank ‹_›
    split at h
    · cases h
    · rename_i members
      obtain ⟨_, last, ⟨⟩⟩ := map_eq_ok.1 h
      obtain ⟨written, given, after, rfl, rfl, series, once, -, others⟩ :=
        series_of_readKeys members
      cases last
      exact .object opens series once (fun key outside => unset_iff.2 (others key outside)) closes
  · cases h

theorem readBody_of_written (written : Written config text) :
    ∃ rest, Blank rest ∧ readBody text = .ok (config, rest) := by
  cases written with
  | @object before members after given opens series once others closes =>
    have enough : members.length < (members ++ '\x7d' :: after).length + 1 := by
      rw [List.length_append]
      omega
    obtain ⟨read, whole, agrees, same⟩ :=
      readKeys_of_series initial [] after series rfl once (by simp) enough
    obtain rfl := eq_of_given agrees same others
    refine ⟨after, closes, ?_⟩
    rw [readBody, skipBlank_solid opens (by decide)]
    simp only [whole]
    rfl
  | @list before values after given opens series order others closes =>
    obtain ⟨read, space, blank, whole, agrees, same⟩ :=
      readPositions_of_series initial after series order (by decide)
    obtain rfl := eq_of_given agrees same others
    refine ⟨after, closes, ?_⟩
    rw [readBody, skipBlank_solid opens (by decide)]
    simp only [ConfigKey.all, whole]
    exact map_eq_ok.2 ⟨_, endList_iff.2 ⟨space, blank, rfl⟩, rfl⟩

/-- What is read from a text is what is written there. -/
theorem ofText_ok_iff {config : Config} : ofText text = .ok config ↔ Written config text := by
  constructor
  · intro h
    unfold ofText at h
    split at h
    · cases h
    · rename_i body
      obtain ⟨_, ends, rfl⟩ := map_eq_ok.1 h
      exact written_of_readBody body (endText_iff.1 ⟨_, ends⟩)
  · intro written
    obtain ⟨rest, closes, body⟩ := readBody_of_written written
    obtain ⟨_, ends⟩ := endText_iff.2 closes
    rw [ofText, body]
    exact map_eq_ok.2 ⟨_, ends, rfl⟩

end

/-- Each value is that of the argument if there is one; pages are locked if either says so. -/
structure Overrides (arguments : Arguments) (base config : Config) : Prop where
  threads : config.threads = arguments.threads.getD base.threads
  memoryMb : config.memoryMb = arguments.memoryMb.getD base.memoryMb
  deviceMb : config.deviceMb =
    if arguments.deviceMb = [] then base.deviceMb else arguments.deviceMb
  lockPages : config.lockPages = true ↔ arguments.lockPages = true ∨ base.lockPages = true
  verbosity : config.verbosity = arguments.verbosity.getD base.verbosity

theorem overrides_iff {arguments : Arguments} {base config : Config} :
    Overrides arguments base config ↔ base.override arguments = config := by
  constructor
  · rintro ⟨threads, memoryMb, deviceMb, lockPages, verbosity⟩
    cases config
    simp only [override, mk.injEq, List.isEmpty_iff]
    refine ⟨threads.symm, memoryMb.symm, deviceMb.symm, ?_, verbosity.symm⟩
    rw [Bool.eq_iff_iff, Bool.or_eq_true]
    exact lockPages.symm
  · rintro rfl
    refine ⟨rfl, rfl, ?_, ?_, rfl⟩ <;> simp [override]

/-- The arguments override what the named file gives. -/
inductive Merged (directory : Directory) (arguments : Arguments) (config : Config) : Prop
  | unset {base : Config} (unnamed : arguments.config = none) (unset : ∀ key, base.Unset key)
      (overrides : Overrides arguments base config) : Merged directory arguments config
  | file {name : String} {text : List Char} {base : Config} (named : arguments.config = some name)
      (readable : directory.text name = .ok text) (written : Written base text)
      (overrides : Overrides arguments base config) : Merged directory arguments config

section

variable {directory : Directory} {arguments : Arguments} {config other : Config}

theorem load_ok_iff :
    load directory arguments = .ok config ↔ Merged directory arguments config := by
  constructor
  · intro h
    unfold load at h
    split at h <;> rename_i named
    · cases h
      exact .unset named (fun key => unset_iff.2 (.refl _ key)) (overrides_iff.2 rfl)
    · unfold ofFile at h
      split at h
      · cases h
      · rename_i readable
        split at h <;> cases h
        rename_i read
        exact .file named readable (ofText_ok_iff.1 read) (overrides_iff.2 rfl)
  · rintro (⟨unnamed, unset, overrides⟩ | ⟨named, readable, written, overrides⟩)
    · obtain rfl := eq_of_agrees fun key => unset_iff.1 (unset key)
      rw [load, unnamed]
      exact congrArg _ (overrides_iff.1 overrides)
    · simp only [load, named, ofFile, readable, ofText_ok_iff.2 written]
      exact congrArg _ (overrides_iff.1 overrides)

theorem Merged.unique (merged : Merged directory arguments config)
    (same : Merged directory arguments other) : config = other :=
  Except.ok.inj ((load_ok_iff.2 merged).symm.trans (load_ok_iff.2 same))

end

end Config

end DispatchServer
