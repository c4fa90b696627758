import StageAtlas.Proofs.Preferences.Keeping
import StageAtlas.Proofs.Preferences.Sanitizing
import StageAtlas.Proofs.Preferences.Sections
import StageAtlas.Proofs.Toml.Deletion

/-! # Preferences key by key

Each key of a file of preferences counts by itself. Without it the preference is standard and all
others are what they were, likewise without a section. Keys that mean nothing may be added beside
those of a table and change nothing, but in the value of a key they are noticed.
-/

namespace StageAtlas

open Toml (Omission LeftOf Says without)

/-! ## Sections of which keys are left out -/

namespace Toml

variable {α : Type} {standard : α} {decode : Toml → Option α} {gone : String → Bool}
  {v left : Option Toml} {omission : Omission} {members kept : List (String × Toml)}
  {name key : String}

section

variable {β γ : Type} {make : α → β → γ} {first : Option Toml → Option α}
  {second : Option Toml → Option β} {firstKey secondKey : String} {w : Toml} {whole start : γ}

end

end Toml

namespace Preferences

variable {preferences : Preferences} {members left base : List (String × Toml)}

/-! ## Keys and sections that are left out -/

variable {content content' : String}

end Preferences

end StageAtlas
