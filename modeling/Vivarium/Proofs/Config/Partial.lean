import Vivarium.Proofs.Config.Fields
import Vivarium.Proofs.Json.Rendering

/-!
# Partial configurations

An object that gives some fields of a configuration, and some fields of each surface it lists, is
read as the configuration that agrees with it on these fields. All others are filled in, each on its
own: those of the configuration from the standard one, and those of a surface from the energy
packets, whichever place the surface has.
-/
namespace Vivarium

open Json

namespace SurfaceConfig

/-- The text is an object that gives these fields of the surface, each once, in this order. -/
def Spells (surface : SurfaceConfig) (text : List Char) (given : List Field) : Prop :=
  given.Nodup ∧ schema.SpellsRecord (fun field => field.kind.Spells) surface.get text given

/-- What is left of a surface of which only some fields are given. -/
def completed (surface : SurfaceConfig) (given : List Field) : SurfaceConfig :=
  schema.fill given surface.get energyPackets

variable {surface : SurfaceConfig} {text : List Char} {given : List Field}

theorem get_completed (field : Field) :
    (surface.completed given).get field =
      if field ∈ given then surface.get field else energyPackets.get field :=
  schema.get_fill given surface.get energyPackets field

theorem reads_completed (spelled : surface.Spells text given) :
    Reads codec.read text (surface.completed given) := by
  obtain ⟨apart, record⟩ := spelled
  exact Json.Schema.codec_reads (record.imp fun _ _ spelled => Kind.reads spelled) apart
    energyPackets

end SurfaceConfig

/-- The texts of what a field holds. Of each surface that is listed, a part of the fields is
given. -/
def Slot.Spells (parts : List (List SurfaceConfig.Field)) :
    (slot : Slot) → List Char → slot.Value → Prop
  | plain kind, text, value => kind.Spells text value
  | surfaces, text, (listed : List SurfaceConfig) =>
    parts.length = listed.length ∧
      Bracketed (fun text (listed : SurfaceConfig × List SurfaceConfig.Field) =>
        listed.1.Spells text listed.2) '[' ']' text (listed.zip parts)

namespace Config

variable {config : Config} {text : List Char} {given : List Field}
  {parts : List (List SurfaceConfig.Field)}

/-- The text is an object that gives these fields of the configuration, each once, in this order,
and of its surfaces these parts. Members of other names may stand among them. -/
def Spells (config : Config) (text : List Char) (given : List Field)
    (parts : List (List SurfaceConfig.Field)) : Prop :=
  given.Nodup ∧ schema.SpellsRecord (fun field => field.slot.Spells parts) config.get text given

/-- The configuration in which each surface keeps only its part. -/
def completed (config : Config) (parts : List (List SurfaceConfig.Field)) : Config :=
  { config with
    surfaces := (config.surfaces.zip parts).map fun listed => listed.1.completed listed.2 }

theorem get_completed {field : Field} (other : field ≠ .surfaces) :
    (config.completed parts).get field = config.get field := by
  cases field <;> first | rfl | exact absurd rfl other

theorem reads_surfaces {surfaces : List SurfaceConfig}
    (spelled : Slot.Spells parts .surfaces text surfaces) :
    Reads SurfaceConfig.codec.list.read text
      ((surfaces.zip parts).map fun listed => listed.1.completed listed.2) :=
  Json.Reader.list_reads
    (spelled.2.map _ fun _ _ _ part => SurfaceConfig.reads_completed part)

theorem reads_field (field : Field) {text : List Char}
    (spelled : field.slot.Spells parts text (config.get field)) :
    Reads field.slot.codec.read text ((config.completed parts).get field) := by
  by_cases listed : field = .surfaces
  · subst listed
    exact reads_surfaces spelled
  · rw [get_completed listed]
    cases field <;> first | exact Kind.reads spelled | exact absurd rfl listed

/-- What is read from such an object, with blanks around it. -/
theorem ofText_eq_fill (spelled : config.Spells text given parts) {gap gap' : List Char}
    (before : Blanks gap) (behind : Blanks gap') {whole : String}
    (written : whole.toList = gap ++ (text ++ gap')) :
    codec.ofText whole = .ok (schema.fill given (config.completed parts).get standard) := by
  obtain ⟨apart, record⟩ := spelled
  have fields := record.imp fun field _ spelled => reads_field field spelled
  have reads := Json.Schema.codec_reads fields apart standard
  exact Json.Reader.run_of_reads reads before behind written

/-- Of the surfaces that are listed each is read with its part, and with the energy packets for
the rest of it. -/
theorem getElem?_completed {index : Nat} {surface : SurfaceConfig}
    {part : List SurfaceConfig.Field} (listed : config.surfaces[index]? = some surface)
    (shown : parts[index]? = some part) :
    (config.completed parts).surfaces[index]? = some (surface.completed part) := by
  have both : (config.surfaces.zip parts)[index]? = some (surface, part) :=
    List.getElem?_zip_eq_some.mpr ⟨listed, shown⟩
  rw [completed, List.getElem?_map, both]
  rfl

/-- An object that gives some of the fields of a configuration, in any order and among any other
members, is read. Each field that is given is as in the configuration, each other one as in the
standard configuration; and of the surfaces, if they are given, each field of each one is as in the
configuration if it is given there, else as in the energy packets. -/
theorem partial_fills (spelled : config.Spells text given parts) {gap gap' : List Char}
    (before : Blanks gap) (behind : Blanks gap') {whole : String}
    (written : whole.toList = gap ++ (text ++ gap')) :
    ∃ read, codec.ofText whole = .ok read ∧
      (∀ field, field ≠ .surfaces →
        read.get field = if field ∈ given then config.get field else standard.get field) ∧
      (.surfaces ∉ given → read.surfaces = standard.surfaces) ∧
      (.surfaces ∈ given → read.surfaces.length = config.surfaces.length ∧
        ∀ (index : Nat) (surface : SurfaceConfig) (part : List SurfaceConfig.Field),
          config.surfaces[index]? = some surface → parts[index]? = some part →
            ∃ shown : SurfaceConfig, read.surfaces[index]? = some shown ∧
              ∀ field, shown.get field =
                if field ∈ part then surface.get field
                else SurfaceConfig.energyPackets.get field) := by
  -- What is given of the surfaces is their parts, completed; all else is given as it is.
  have filled := schema.get_fill given (config.completed parts).get standard
  refine ⟨_, ofText_eq_fill spelled before behind written, ?_, ?_, ?_⟩
  · intro field other
    have same : (config.completed parts).get field = config.get field := get_completed other
    rw [← same]
    exact filled field
  · intro missing
    exact (filled .surfaces).trans (if_neg missing)
  · intro present
    have surfaces : (schema.fill given (config.completed parts).get standard).surfaces =
        (config.completed parts).surfaces := (filled .surfaces).trans (if_pos present)
    obtain ⟨part, listed⟩ := spelled.2.of_mem present
    have many : parts.length = config.surfaces.length := listed.1
    rw [surfaces]
    refine ⟨by simp [completed, many], fun index surface part listed shown => ?_⟩
    exact ⟨_, getElem?_completed listed shown, SurfaceConfig.get_completed⟩

/-- A small world with half of its organisms, whose second surface is lava. -/
def brief : Config :=
  { standard with
    worldWidth := 64
    orgInitialPercent := 0.5
    surfaces := [{ SurfaceConfig.energyPackets with capacity := 20 }, SurfaceConfig.lava] }

/-- Some of it, with a name that begins with an escape, a remark, and nothing of the lava. -/
def briefText : String :=
  "\x7b\"\\u0077orld_width\":64, \"note\":[\x7b\"a\":null\x7d],\n\"surfaces\":" ++
    "[\x7b\"capacity\":20\x7d,\x7b\x7d],\"org_initial_percent\":0.5\x7d"

theorem spells_briefText : ∃ text, briefText.toList = [] ++ (text ++ []) ∧
    brief.Spells text [.worldWidth, .surfaces, .orgInitialPercent] [[.capacity], []] := by
  let Member := schema.Member (fun field => field.slot.Spells [[.capacity], []]) brief.get
  have zero : HexDigit '0' 0 := .inl rfl
  have seven : HexDigit '7' 7 := .inl rfl
  have escaped : SpellsString false _ "world_width" :=
    ⟨_, .cons (.unit (.digits zero zero seven seven) (.inr (.inl (by decide))))
      (spellsChars_of_pieces _), rfl⟩
  have width : Member _ (some .worldWidth) :=
    .known (.compact escaped ⟨(by decide : 64 < limit32), rfl⟩)
  have remark : SpellsValue true 3 _ (.array [.object [("a", .null)]]) :=
    ⟨_, .more blanks_nil .nothing
      ⟨_, .more blanks_nil .nothing (.compact (spellsString_quoted "a") rfl) (.done blanks_nil),
        rfl⟩ (.done blanks_nil), rfl⟩
  have foreign : ∀ field, schema.key field ≠ "note" := by
    intro field
    cases field <;> decide
  have note : Member _ none := .unknown (.compact (spellsString_quoted "note") remark) foreign
  have packets : SurfaceConfig.Spells { SurfaceConfig.energyPackets with capacity := 20 } _
      [.capacity] :=
    ⟨by decide, [some .capacity], ⟨_, .more blanks_nil .nothing
      (.known (.compact (spellsString_quoted "capacity") ⟨(by decide : 20 < limit64), rfl⟩))
      (.done blanks_nil), rfl⟩, rfl⟩
  have lava : SurfaceConfig.lava.Spells _ [] :=
    ⟨by decide, [], ⟨_, .done blanks_nil, rfl⟩, rfl⟩
  have surfaces : Member _ (some .surfaces) :=
    .known (.compact (spellsString_quoted "surfaces")
      ⟨rfl, _, .more blanks_nil .nothing packets
        (.more blanks_nil (.comma blanks_nil) lava (.done blanks_nil)), rfl⟩)
  have whole : Digits ['0'] := ⟨by decide, by simp⟩
  have tenths : Digits ['5'] := ⟨by decide, by simp⟩
  have half : NumberText ['0', '.', '5'] :=
    .parts (.inl rfl) whole (fun _ => rfl) (.point tenths) .none
  have percent : Member _ (some .orgInitialPercent) :=
    .known (.compact (spellsString_quoted "org_initial_percent") ⟨half, rfl⟩)
  have space : Blanks [' '] := by simp [Blanks, blankChars]
  have newline : Blanks ['\n'] := by simp [Blanks, blankChars]
  refine ⟨_, ?_, by decide, [some .worldWidth, none, some .surfaces, some .orgInitialPercent],
    ⟨_, .more blanks_nil .nothing width (.more blanks_nil (.comma space) note
      (.more blanks_nil (.comma newline) surfaces
        (.more blanks_nil (.comma blanks_nil) percent (.done blanks_nil)))), rfl⟩, rfl⟩
  decide

/-- Of the lava nothing is given, so there are energy packets in its place. -/
theorem partial_fills_brief :
    (∃ text, briefText.toList = [] ++ (text ++ []) ∧
      brief.Spells text [.worldWidth, .surfaces, .orgInitialPercent] [[.capacity], []]) ∧
      Blanks [] ∧
      ∃ read, codec.ofText briefText = .ok read ∧ read.worldWidth = 64 ∧ read.worldHeight = 300 ∧
        read.orgInitialPercent = 0.5 ∧ ∃ second : SurfaceConfig,
          read.surfaces[1]? = some second ∧ second.capacity = 10000 ∧ second.name = "energy" := by
  obtain ⟨text, written, spelled⟩ := spells_briefText
  obtain ⟨read, answer, plain, -, surfaces⟩ := partial_fills spelled blanks_nil blanks_nil written
  obtain ⟨-, listed⟩ := surfaces (by decide)
  obtain ⟨second, shown, fields⟩ := listed 1 SurfaceConfig.lava [] rfl rfl
  exact ⟨⟨text, written, spelled⟩, blanks_nil, read, answer, plain .worldWidth (by decide),
    plain .worldHeight (by decide), plain .orgInitialPercent (by decide), second, shown,
    fields .capacity, fields .name⟩

end Config

end Vivarium
