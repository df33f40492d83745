import Interchain.Config
import Interchain.Proofs.Form.Records
import Interchain.Proofs.Toml.Lines

/-!
# A written configuration is read back

The document that a configuration is written as has a table for each section and, where there
are entries, an array of tables (`Config.document`). Reading the text gives the document
(`Config.read?_toToml`), and decoding that gives the configuration.
-/

set_option autoImplicit false

namespace Interchain

open Toml

/-! ## The tables of a configuration -/

def TransferParams.members (p : TransferParams) : List (String × Toml) :=
  [("port_id", .text p.port.text),
    ("send_enabled", .bool p.sendEnabled),
    ("receive_enabled", .bool p.receiveEnabled),
    ("require_export_permission", .bool p.requireExport),
    ("require_import_permission", .bool p.requireImport)]

def LoggingConfig.members (l : LoggingConfig) : List (String × Toml) :=
  [("format", .text l.format.word), ("level", .text l.level)]

def Entry.members (e : Entry) : List (String × Toml) :=
  [("denom", .text e.denom),
    ("base_denom", .text e.baseDenom),
    ("path", .text e.path),
    ("decimals", .integer e.decimals.toNat),
    ("ibc_counterparty_denom", .text e.counterparty),
    ("unit_denom", .text e.unit),
    ("display_name", .text e.displayName),
    ("permissions", .array ((e.permissions.map Permission.word).map .text))]

namespace Config

theorem printsSection_transfer (p : TransferParams) :
    PrintsSection (tableSection "transfer" p.members) (transferTable p) := by
  have hbare : ∀ name ∈ ["port_id", "send_enabled", "receive_enabled",
      "require_export_permission", "require_import_permission"], IsBare name := by decide +kernel
  exact printsSection_table (by decide +kernel) rfl hbare <| .cons (prints_string _) <|
    .cons (prints_bool _) <| .cons (prints_bool _) <| .cons (prints_bool _) <|
    .cons (prints_bool _) .nil

theorem printsSection_logging (l : LoggingConfig) :
    PrintsSection (tableSection "logging" l.members) (loggingTable l) := by
  have hbare : ∀ name ∈ ["format", "level"], IsBare name := by decide +kernel
  exact printsSection_table (by decide +kernel) rfl hbare <| .cons (prints_string _) <|
    .cons (prints_string _) .nil

theorem isWord_decimals (n : UInt32) : isWord n.toNat = true := by
  have hlt := n.toNat_lt
  have hleast : Int64.minValue.toInt = -2 ^ 63 := by decide
  have hmost : Int64.maxValue.toInt = 2 ^ 63 - 1 := by decide
  simp only [isWord, hleast, hmost, Bool.and_eq_true, decide_eq_true_eq]
  omega

theorem printsSection_entry (e : Entry) :
    PrintsSection (arraySection "registry" e.members) (entryTable e) := by
  have hbare : ∀ name ∈ ["denom", "base_denom", "path", "decimals", "ibc_counterparty_denom",
      "unit_denom", "display_name", "permissions"], IsBare name := by decide +kernel
  exact printsSection_arrayTable (by decide +kernel) rfl hbare <| .cons (prints_string _) <|
    .cons (prints_string _) <| .cons (prints_string _) <|
    .cons (prints_nat (isWord_decimals _)) <| .cons (prints_string _) <|
    .cons (prints_string _) <| .cons (prints_string _) <| .cons (prints_strings _) .nil

/-! ## The document -/

/-- The members of the document that a configuration is written as. -/
def members (c : Config) : List (String × Toml) :=
  [("transfer", .table c.transfer.members), ("logging", .table c.logging.members)] ++
    if c.registry.isEmpty then []
    else [("registry", .array ((c.registry.map Entry.members).map .table))]

/-- The sections that a configuration is written as, with the text of each. -/
def sections (c : Config) : List (Section × List Char) :=
  (tableSection "transfer" c.transfer.members, transferTable c.transfer) ::
    (tableSection "logging" c.logging.members, loggingTable c.logging) ::
    c.registry.map fun e => (arraySection "registry" e.members, entryTable e)

theorem sections_print (c : Config) : ∀ p ∈ c.sections, PrintsSection p.1 p.2 := by
  intro p hp
  simp only [sections, List.mem_cons, List.mem_map] at hp
  rcases hp with rfl | rfl | ⟨e, -, rfl⟩
  · exact printsSection_transfer c.transfer
  · exact printsSection_logging c.logging
  · exact printsSection_entry e

theorem toToml_eq (c : Config) :
    c.toToml = String.ofList (['\n'].intercalate (c.sections.map (·.2))) := by
  simp [toToml, sections, Function.comp_def]

/-- The two sections make two tables. -/
theorem addSection_sections (c : Config) :
    ∃ root, ([tableSection "transfer" c.transfer.members,
      tableSection "logging" c.logging.members]).foldlM addSection [] = some root ∧
      root.lookup "registry" = none ∧
      finish root = [("transfer", .table c.transfer.members),
        ("logging", .table c.logging.members)] := by
  have htransfer : (c.transfer.members.map (·.1)).Nodup := by
    show ["port_id", "send_enabled", "receive_enabled", "require_export_permission",
      "require_import_permission"].Nodup
    decide
  have hlogging : (c.logging.members.map (·.1)).Nodup := by
    show ["format", "level"].Nodup
    decide
  refine ⟨[("transfer", .table false false (values c.transfer.members)),
    ("logging", .table false false (values c.logging.members))], ?_, rfl, ?_⟩
  · rw [List.foldlM_cons, addSection_table rfl htransfer, Option.bind_eq_bind, Option.bind_some,
      List.foldlM_cons, addSection_table rfl hlogging]
    rfl
  · simp [finish, Node.toToml, finish_values]

theorem entry_members_nodup (e : Entry) : (e.members.map (·.1)).Nodup := by
  show ["denom", "base_denom", "path", "decimals", "ibc_counterparty_denom", "unit_denom",
    "display_name", "permissions"].Nodup
  decide

/-- The sections make the document of the configuration. -/
theorem addSection_document (c : Config) :
    ∃ root, (c.sections.map (·.1)).foldlM addSection [] = some root ∧
      finish root = c.members := by
  obtain ⟨root, hfold, hlookup, hfinish⟩ := c.addSection_sections
  have hsections : c.sections.map (·.1) = [tableSection "transfer" c.transfer.members,
      tableSection "logging" c.logging.members] ++
      (c.registry.map Entry.members).map (arraySection "registry") := by
    simp [sections, Function.comp_def]
  rw [hsections, List.foldlM_append, hfold, Option.bind_eq_bind, Option.bind_some, members]
  cases c.registry with
  | nil => exact ⟨root, rfl, by rw [hfinish]; rfl⟩
  | cons e es =>
      obtain ⟨node, hnode, htoml⟩ := foldlM_tables hlookup e.members (es.map Entry.members) <| by
        intro ks hks
        rw [← List.map_cons] at hks
        obtain ⟨e, -, rfl⟩ := List.mem_map.1 hks
        exact entry_members_nodup e
      refine ⟨_, hnode, ?_⟩
      rw [finish_append, hfinish, finish, htoml]
      rfl

/-- **The text that a configuration is written as is read as its document.** -/
theorem read?_toToml (c : Config) : Toml.read? c.toToml = some (.table c.members) := by
  obtain ⟨root, hfold, hfinish⟩ := c.addSection_document
  have hlines : Lines (['\n'].intercalate (c.sections.map (·.2))) [] (c.sections.map (·.1)) :=
    lines_document _ _ c.sections_print
  obtain ⟨cs, hcs⟩ : ∃ cs, ['\n'].intercalate (c.sections.map (·.2)) = '[' :: cs := by
    rw [sections, List.map_cons, intercalate_newline]
    exact ⟨_, rfl⟩
  rw [hcs] at hlines
  rw [toToml_eq, hcs, read?_of_lines hlines (by decide) hfold, hfinish]

end Config

/-! ## Decoding the document -/

theorem decode_port (p : Port) : Port.decode (Toml.text p.text) = some p := by
  show (Port.parse p.text).toOption = some p
  rw [Port.parse_text]
  rfl

theorem decode_transferMembers (p : TransferParams) :
    TransferParams.decode (Toml.table p.members) = some p := by
  have hrecord : Record.ofDocument? ["port_id", "send_enabled", "receive_enabled",
      "require_export_permission", "require_import_permission"] (Toml.table p.members) =
      some p.members := Record.ofDocument?_of_members rfl (.refl _) (by decide)
  have hbool : ∀ b : Bool, Document.bool? (Toml.bool b) = some b := fun _ => rfl
  rw [TransferParams.decode, hrecord]
  simp [TransferParams.members, decode_port, hbool]

theorem decode_loggingMembers (l : LoggingConfig) :
    LoggingConfig.decode (Toml.table l.members) = some l := by
  have hrecord : Record.ofDocument? ["format", "level"] (Toml.table l.members) = some l.members :=
    Record.ofDocument?_of_members rfl (.refl _) (by decide)
  have hformat : LogFormat.decode (Toml.text l.format.word) = some l.format := by
    cases l.format <;> decide
  have hlevel : Document.text? (Toml.text l.level) = some l.level := rfl
  rw [LoggingConfig.decode, hrecord]
  simp [LoggingConfig.members, hformat, hlevel]

theorem uint32?_integer (n : UInt32) : Document.uint32? (Toml.integer n.toNat) = some n := by
  rw [Document.uint32?, Document.nat?_of_integer rfl n.toNat_lt, Option.map_some,
    UInt32.ofNat_toNat]

theorem decode_word (p : Permission) : Permission.decode (Toml.text p.word) = some p := by
  cases p <;> rfl

theorem decode_entryMembers (e : Entry) : Entry.decode (Toml.table e.members) = some e := by
  have hrecord : Record.ofDocument? ["denom", "base_denom", "path", "decimals",
      "ibc_counterparty_denom", "unit_denom", "display_name", "permissions"]
      (Toml.table e.members) = some e.members :=
    Record.ofDocument?_of_members rfl (.refl _) (by decide)
  have htext : ∀ s : String, Document.text? (Toml.text s) = some s := fun _ => rfl
  have hpermissions : Document.list? Permission.decode
      (Toml.array (e.permissions.map (.text ∘ Permission.word))) = some e.permissions :=
    Document.list?_of_items rfl decode_word
  rw [Entry.decode, hrecord, Option.bind_eq_bind, Option.bind_some]
  simp [Entry.members, htext, uint32?_integer, hpermissions]

namespace Config

theorem decode_members (c : Config) : decode (Toml.table c.members) = some c := by
  have hentries : ∀ es : List Entry, Document.list? Entry.decode
      (Toml.array (es.map (.table ∘ Entry.members))) = some es := fun es =>
    Document.list?_of_items rfl decode_entryMembers
  have hnames : (c.members.map (·.1)).Sublist ["transfer", "logging", "registry"] := by
    cases h : c.registry.isEmpty <;> simp [members, h]
  have hrecord : Record.ofDocument? ["transfer", "logging", "registry"]
      (Toml.table c.members) = some c.members :=
    Record.ofDocument?_of_members rfl hnames (by decide)
  rw [decode, hrecord]
  obtain ⟨transfer, logging, registry⟩ := c
  cases registry with
  | nil => simp [members, decode_transferMembers, decode_loggingMembers]
  | cons e es =>
      have hcons := hentries (e :: es)
      rw [List.map_cons, Function.comp_apply] at hcons
      simp [members, decode_transferMembers, decode_loggingMembers, hcons]

/-- **A configuration is read back from the TOML document that it is written as**, and so is the
registry that it gives, or the error. The document is the one of `Config.toToml`, with every string
between double quotes; nothing is said of a writer that takes literal or multi-line strings for
texts with quotes, backslashes or line ends. -/
theorem ofToml_toToml (c : Config) :
    ofToml c.toToml = .ok c ∧ (ofToml c.toToml).bind tokenRegistry = c.tokenRegistry := by
  have hread : ofToml c.toToml = .ok c := by
    rw [ofToml, read?_toToml]
    simp only [decode_members]
  exact ⟨hread, by rw [hread]; rfl⟩

end Config

end Interchain
