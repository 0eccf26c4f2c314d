import Stencil.Processor
import Stencil.Proofs.Execution.Statement

/-!
# Renders follow each other

A render brings the given data to life, and runs a compiled text or a template file with it.
-/

set_option autoImplicit false

namespace Stencil.Engine

open Stencil.Template Stencil.Processor

theorem ofList_on {υ : Type} [Renames υ] (ρ : Renaming) (entries : List (String × υ)) :
    Table.ofList (entries.map ρ.on) = ρ.on (Table.ofList entries) :=
  insertAll_on ρ Table.empty entries

namespace Agreement

variable {A : Agreement}

theorem thaws_named (named : List (String × Data)) :
    A.Thaws (List.map A.names.on) (named.mapM fun e => do return (e.1, ← thawAs none e.2))
      (named.mapM fun e => do return (e.1, ← thawAs none e.2)) := by
  induction named with
  | nil => exact .ret rfl
  | cons e rest ih =>
    simp only [List.mapM_cons]
    exact .bind (f := A.names.on) (.bind (thaws_as none e.2) fun _ => .ret rfl) fun _ => ih.bind fun _ => .ret rfl

theorem sim_thawNamed (named : List (String × Data)) : A.Same (thawNamed named) (thawNamed named) :=
  (thaws_named named []).bind fun p => .ret (ofList_on A.names p.1)

theorem sim_renderWith [A.Complete] (t : Script) (vars : List (Data × Data)) : A.Same (renderWith t vars) (renderWith t vars) := by
  refine .bind (f := id) ?_ fun named => (sim_thawNamed named).bind fun values => ?_
  · cases namedData? vars with
    | none => exact .fails _
    | some named => exact .ret rfl
  · exact sim_renderTemplate (aligned_interp plenty) t values

theorem sim_sourceText [A.Complete] (name : String) (vars : List (Data × Data)) (source : String) :
    A.Same (sourceText name vars source) (sourceText name vars source) :=
  (Complete.compile_text name source).of_quiet.bind fun c => sim_renderWith (.text c) vars

theorem sim_fileText [A.Complete] (name : String) (vars : List (Data × Data)) : A.Same (fileText name vars) (fileText name vars) :=
  (sim_loadTemplate name).bind fun t => sim_renderWith (.file t) vars

end Agreement

end Stencil.Engine
