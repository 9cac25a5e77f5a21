import Gatekeeper.Credentials
import Gatekeeper.Proofs.Codec.Base64
import Gatekeeper.Proofs.Codec.Utf8

/-!
# Credential lines are read back

A line with the separator in it is never read as the Basic scheme.  It is split at
the first separator, so the line that is made of a well-formed identifier and a
password is read as these two, whatever the password holds, and a line that is read
is the one that is made of what was read.  The payload of a header holds no
separator and no blank, so a header is read as the line that is in it.
-/

namespace Gatekeeper

namespace Credentials

/-- A line that is not read as the Basic scheme. -/
def Plain (line : String) : Prop :=
  ¬(basicScheme.toList.isPrefixOf line.toList ∧ separator ∉ line.toList)

instance (line : String) : Decidable (Plain line) := inferInstanceAs (Decidable (¬_))

theorem parse_of_plain {line : String} (plain : Plain line) :
    parse line = ofPlainLine line.toList := by
  rw [parse, plainLine, if_neg plain]

theorem plain_of_separator_mem {line : String} (marked : separator ∈ line.toList) :
    Plain line := by
  intro basic
  exact basic.2 marked

theorem ofPlainLine_append {user : String} (formed : UserId.WellFormed user)
    (password : List Char) :
    ofPlainLine (user.toList ++ separator :: password) =
      .ok ⟨user, ⟨String.ofList password⟩⟩ := by
  rw [ofPlainLine, Text.splitFirst?_append password formed.2]
  simp [check, UserId.check_of_wellFormed formed]

theorem line_of_wellFormed {user : String} (formed : UserId.WellFormed user) (password : String) :
    line user password = .ok (String.ofList (user.toList ++ separator :: password.toList)) := by
  rw [line, UserId.check_of_wellFormed formed]

theorem exists_line {user : String} (formed : UserId.WellFormed user) (password : String) :
    ∃ text, line user password = .ok text ∧ parse text = .ok ⟨user, ⟨password⟩⟩ := by
  refine ⟨_, line_of_wellFormed formed password, ?_⟩
  rw [parse_of_plain (plain_of_separator_mem (by simp)), String.toList_ofList,
    ofPlainLine_append formed, String.ofList_toList]

/-! ## Lines -/

/-- What is read from a plain line is what the line is made of. -/
theorem of_ofPlainLine_eq_ok {text : List Char} {c : Credentials}
    (read : ofPlainLine text = .ok c) :
    UserId.WellFormed c.user ∧ text = c.user.toList ++ separator :: c.password.text.toList := by
  cases split : Text.splitFirst? separator text with
  | none => simp [ofPlainLine, split] at read
  | some parts =>
      obtain ⟨before, after⟩ := parts
      obtain ⟨rfl, -⟩ := Text.eq_append_of_splitFirst? split
      simp only [ofPlainLine, split, check] at read
      cases checked : UserId.check (String.ofList before) with
      | error malformation => simp [checked] at read
      | ok id =>
          obtain ⟨formed, rfl⟩ := UserId.check_eq_ok_iff.mp checked
          simp only [checked, Except.ok.injEq] at read
          subst read
          exact ⟨formed, by simp⟩

theorem ofPlainLine_separator (password : List Char) :
    ofPlainLine (separator :: password) = .error .emptyIdentifier := by
  simp [ofPlainLine, Text.splitFirst?, check, UserId.check]

/-- A line is read exactly if something stands before its first separator. -/
theorem exists_ofPlainLine_iff {text : List Char} (marked : separator ∈ text) :
    (∃ c, ofPlainLine text = .ok c) ↔ text.head? ≠ some separator := by
  cases split : Text.splitFirst? separator text with
  | none => exact absurd marked (Text.splitFirst?_eq_none_iff.mp split)
  | some parts =>
      obtain ⟨before, after⟩ := parts
      obtain ⟨rfl, clear⟩ := Text.eq_append_of_splitFirst? split
      cases before with
      | nil =>
          rw [List.nil_append, ofPlainLine_separator]
          simp
      | cons first rest =>
          have formed : UserId.WellFormed (String.ofList (first :: rest)) :=
            ⟨by simp, by simpa using clear⟩
          have read := ofPlainLine_append formed after
          rw [String.toList_ofList] at read
          have starts : first ≠ separator := by
            rintro rfl
            exact clear List.mem_cons_self
          exact ⟨fun _ => by simpa using starts, fun _ => ⟨_, read⟩⟩

theorem line_of_parse {raw : String} {c : Credentials} (marked : separator ∈ raw.toList)
    (read : parse raw = .ok c) :
    UserId.WellFormed c.user ∧ line c.user c.password.text = .ok raw := by
  rw [parse_of_plain (plain_of_separator_mem marked)] at read
  obtain ⟨formed, made⟩ := of_ofPlainLine_eq_ok read
  refine ⟨formed, ?_⟩
  rw [line_of_wellFormed formed, ← made, String.ofList_toList]

/-- A line that is read although no separator is in it: the separator is in what it encodes. -/
def Encoded (line : String) : Prop := separator ∉ line.toList ∧ ∃ c, parse line = .ok c

theorem parse_refused_iff {line : String} (other : ¬Encoded line) :
    (∃ malformation, parse line = .error malformation) ↔
      separator ∉ line.toList ∨ line.toList.head? = some separator := by
  by_cases marked : separator ∈ line.toList
  · have readable := exists_ofPlainLine_iff marked
    rw [← parse_of_plain (plain_of_separator_mem marked)] at readable
    cases read : parse line with
    | error malformation => simp_all
    | ok c => simp_all
  · cases read : parse line with
    | error malformation => simp [marked]
    | ok c => exact absurd ⟨marked, c, read⟩ other

/-- A line with a separator is about the text before the first one. -/
theorem upTo_of_parse {line : String} {c : Credentials} (marked : separator ∈ line.toList)
    (read : parse line = .ok c) : Text.upTo separator line = c.user := by
  obtain ⟨formed, made⟩ := line_of_parse marked read
  rw [line_of_wellFormed formed, Except.ok.injEq] at made
  rw [← made, Text.upTo_append _ formed.2, String.ofList_toList]

theorem line_of_ill {user : String} {malformation : Malformation}
    (refused : UserId.check user = .error malformation) (password : String) :
    line user password = .error malformation ∧
      basicHeader user password = .error malformation := by
  have unwritten : line user password = .error malformation := by rw [line, refused]
  exact ⟨unwritten, by rw [basicHeader, unwritten]⟩

/-- Making a line and reading it are inverse to each other, between the pairs of a well-formed
identifier and a password and the texts whose first separator is not their first character.  No
line and no header is made for an identifier that is not well formed. -/
theorem lines_are_credentials (user password raw : String) :
    (UserId.WellFormed user → ∃ text, line user password = .ok text ∧
      separator ∈ text.toList ∧ text.toList.head? ≠ some separator ∧
      parse text = .ok ⟨user, ⟨password⟩⟩) ∧
    (separator ∈ raw.toList →
      ((∃ c, parse raw = .ok c) ↔ raw.toList.head? ≠ some separator) ∧
      ∀ c, parse raw = .ok c → UserId.WellFormed c.user ∧ line c.user c.password.text = .ok raw) ∧
    (¬UserId.WellFormed user → ∃ malformation, line user password = .error malformation ∧
      basicHeader user password = .error malformation) := by
  have readable : ∀ {text : String}, separator ∈ text.toList →
      ((∃ c, parse text = .ok c) ↔ text.toList.head? ≠ some separator) := by
    intro text marked
    rw [parse_of_plain (plain_of_separator_mem marked)]
    exact exists_ofPlainLine_iff marked
  refine ⟨?_, ?_, ?_⟩
  · intro formed
    obtain ⟨text, made, read⟩ := exists_line formed password
    have marked : separator ∈ text.toList := by
      rw [line_of_wellFormed formed, Except.ok.injEq] at made
      simp [← made]
    exact ⟨text, made, marked, (readable marked).mp ⟨_, read⟩, read⟩
  · intro marked
    exact ⟨readable marked, fun c read => line_of_parse marked read⟩
  · intro ill
    obtain ⟨malformation, refused⟩ := UserId.exists_check_eq_error ill
    exact ⟨malformation, line_of_ill refused password⟩

/-- An identifier that looks like a scheme, a password with separators, a line with nothing
before its separator, and an identifier that holds one. -/
theorem lines_are_credentials_scheme :
    (∃ text, line "Basic Bob" "a:b:" = .ok text ∧ parse text = .ok ⟨"Basic Bob", ⟨"a:b:"⟩⟩) ∧
      (¬∃ c, parse ":a" = .ok c) ∧
      line "Basic Bob" ":" = .ok "Basic Bob::" ∧
      ∃ malformation, basicHeader "a:b" "pw" = .error malformation := by
  obtain ⟨text, made, -, -, read⟩ := (lines_are_credentials "Basic Bob" "a:b:" "").1 (by decide)
  have starts := ((lines_are_credentials "" "" ":a").2.1 (by decide)).1
  have written := ((lines_are_credentials "" "" "Basic Bob::").2.1 (by decide)).2
  obtain ⟨malformation, -, refused⟩ := (lines_are_credentials "a:b" "pw" "").2.2 (by decide)
  refine ⟨⟨text, made, read⟩, ?_, ?_, malformation, refused⟩
  · rw [starts]
    decide
  · exact (written ⟨"Basic Bob", ⟨":"⟩⟩ rfl).2

/-! ## Headers -/

theorem separator_not_mem_payload (bytes : List UInt8) :
    separator ∉ Codec.Base64.encode bytes := by
  intro h
  have other : separator ≠ separator :=
    Codec.Base64.of_mem_encode (P := fun x => x ≠ separator) (by decide) (by decide +kernel) h
  exact other rfl

theorem blank_ne_separator {c : Char} (blank : Text.isBlank c = true) : c ≠ separator := by
  rintro rfl
  exact absurd blank (by decide)

/-- Blanks around a payload do not matter. -/
theorem decodeBasic_surrounded {before after : List Char}
    (ahead : ∀ c ∈ before, Text.isBlank c = true) (behind : ∀ c ∈ after, Text.isBlank c = true)
    (text : List Char) :
    decodeBasic (before ++ Codec.Base64.encode (Codec.Utf8.encode text) ++ after) = .ok text := by
  have kept : ∀ c ∈ Codec.Base64.encode (Codec.Utf8.encode text), Text.isBlank c = false :=
    fun _ h => Codec.Base64.not_blank_of_mem_encode h
  rw [decodeBasic, Text.trim_surrounded ahead kept behind, Codec.Base64.decodeStrict_encode]
  dsimp only
  rw [Codec.Utf8.decode_encode]

theorem parse_basic {payload text : List Char} (unmarked : separator ∉ payload)
    (decoded : decodeBasic payload = .ok text) :
    parse (basicScheme ++ String.ofList payload) = ofPlainLine text := by
  have line : (basicScheme ++ String.ofList payload).toList = basicScheme.toList ++ payload := by
    simp
  have basic : basicScheme.toList.isPrefixOf (basicScheme.toList ++ payload) = true ∧
      separator ∉ basicScheme.toList ++ payload := by
    refine ⟨List.isPrefixOf_iff_prefix.mpr (List.prefix_append _ _), ?_⟩
    rw [List.mem_append, not_or]
    exact ⟨by decide, unmarked⟩
  rw [parse, plainLine, line, if_pos basic, List.drop_left, decoded]

/-- What stands after the scheme in the header of an identifier and a password. -/
def payload (user password : String) : List Char :=
  Codec.Base64.encode (Codec.Utf8.encode (user.toList ++ separator :: password.toList))

theorem basicHeader_of_wellFormed {user : String} (formed : UserId.WellFormed user)
    (password : String) :
    basicHeader user password = .ok (basicScheme ++ String.ofList (payload user password)) := by
  rw [basicHeader, line_of_wellFormed formed]
  dsimp only
  rw [String.toList_ofList, payload]

theorem parse_payload {user : String} (formed : UserId.WellFormed user) (password : String)
    {before after : List Char} (ahead : ∀ c ∈ before, Text.isBlank c = true)
    (behind : ∀ c ∈ after, Text.isBlank c = true) :
    parse (basicScheme ++ String.ofList (before ++ payload user password ++ after)) =
      .ok ⟨user, ⟨password⟩⟩ := by
  have unmarked : separator ∉ before ++ payload user password ++ after := by
    simp only [List.mem_append, not_or]
    exact ⟨⟨fun h => blank_ne_separator (ahead _ h) rfl, separator_not_mem_payload _⟩,
      fun h => blank_ne_separator (behind _ h) rfl⟩
  rw [parse_basic unmarked (decodeBasic_surrounded ahead behind _), ofPlainLine_append formed,
    String.ofList_toList]

theorem wellFormed_of_basicHeader {user password header : String}
    (made : basicHeader user password = .ok header) : UserId.WellFormed user := by
  refine Decidable.byContradiction fun ill => ?_
  obtain ⟨malformation, refused⟩ := UserId.exists_check_eq_error ill
  rw [(line_of_ill refused password).2] at made
  cases made

theorem exists_basicHeader {user : String} (formed : UserId.WellFormed user) (password : String) :
    ∃ text, basicHeader user password = .ok text ∧ parse text = .ok ⟨user, ⟨password⟩⟩ := by
  have read := @parse_payload user formed password [] [] nofun nofun
  rw [List.nil_append, List.append_nil] at read
  exact ⟨_, basicHeader_of_wellFormed formed password, read⟩

/-- Every header encodes its credentials. -/
theorem encoded_of_basicHeader {user password header : String} (formed : UserId.WellFormed user)
    (made : basicHeader user password = .ok header) : Encoded header := by
  obtain ⟨text, same, read⟩ := exists_basicHeader formed password
  rw [made, Except.ok.injEq] at same
  rw [← same] at read
  rw [basicHeader_of_wellFormed formed, Except.ok.injEq] at made
  refine ⟨?_, _, read⟩
  rw [← made, String.toList_append, String.toList_ofList, List.mem_append, not_or]
  exact ⟨by decide, separator_not_mem_payload _⟩

/-- The header of a well-formed identifier and a password is read as these two, also if blanks
stand around its payload. -/
theorem parse_basicHeader {user before after : String} (formed : UserId.WellFormed user)
    (password : String) (ahead : ∀ c ∈ before.toList, Text.isBlank c = true)
    (behind : ∀ c ∈ after.toList, Text.isBlank c = true) :
    ∃ encoded, basicHeader user password = .ok (basicScheme ++ encoded) ∧
      parse (basicScheme ++ encoded) = .ok ⟨user, ⟨password⟩⟩ ∧
      parse (basicScheme ++ (before ++ encoded ++ after)) = .ok ⟨user, ⟨password⟩⟩ := by
  obtain ⟨text, made, read⟩ := exists_basicHeader formed password
  have header := basicHeader_of_wellFormed formed password
  have joined : before ++ String.ofList (payload user password) ++ after =
      String.ofList (before.toList ++ payload user password ++ after.toList) := by
    simp [String.append_assoc]
  rw [made, Except.ok.injEq] at header
  refine ⟨String.ofList (payload user password), header ▸ made, header ▸ read, ?_⟩
  rw [joined]
  exact parse_payload formed password ahead behind

/-- An identifier that looks like a scheme and a password of characters of every length, between
blanks of either kind. -/
theorem parse_basicHeader_scheme :
    UserId.WellFormed "Basic Bob" ∧
      ∃ encoded, basicHeader "Basic Bob" "a:é\n\x00큓😀" = .ok (basicScheme ++ encoded) ∧
        parse (basicScheme ++ ("\t\u2003" ++ encoded ++ "\n \x1c")) =
          .ok ⟨"Basic Bob", ⟨"a:é\n\x00큓😀"⟩⟩ := by
  have formed : UserId.WellFormed "Basic Bob" := by decide
  have ahead : "\t\u2003".toList.all Text.isBlank = true := by decide
  have behind : "\n \x1c".toList.all Text.isBlank = true := by decide
  obtain ⟨encoded, made, -, read⟩ := parse_basicHeader formed "a:é\n\x00큓😀"
    (List.all_eq_true.mp ahead) (List.all_eq_true.mp behind)
  exact ⟨formed, encoded, made, read⟩

end Credentials

end Gatekeeper
