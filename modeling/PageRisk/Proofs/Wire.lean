import PageRisk.Proofs.Json.Codec
import PageRisk.Wire.Page
import PageRisk.Wire.Policy

set_option autoImplicit false

/-! # Pages and policies decoded from what they are encoded as -/

namespace PageRisk

open Json.Decoder

theorem Page.undoes_toJson (page : Page) : Page.decoder.Undoes Page.toJson page := by
  refine undoes_record (s := ⟨some page.hostname, some page.csp⟩) rfl (fun fuel hfuel => ?_) rfl
  simp only [List.forall_mem_cons] at hfuel
  obtain ⟨hhostname, hcsp, -⟩ := hfuel
  exact membersRead_field rfl (undoes_string page.hostname) hhostname rfl
    (membersRead_field rfl (undoes_optional_string page.csp) hcsp rfl (.nil _))

namespace Csp

theorem Directive.undoes_toJson (d : Directive) :
    Directive.decoder.Undoes Directive.toJson d := by
  have hsources : (list string).Undoes .ofStrings d.sources := undoes_list fun s _ => undoes_string s
  refine undoes_record (s := ⟨some d.text, some d.name, some d.sources⟩) rfl (fun fuel hfuel => ?_) rfl
  simp only [List.forall_mem_cons] at hfuel
  obtain ⟨htext, hname, hlist, -⟩ := hfuel
  exact membersRead_field rfl (undoes_string d.text) htext rfl
    (membersRead_field rfl (undoes_string d.name) hname rfl
      (membersRead_field rfl hsources hlist rfl (.nil _)))

theorem Policy.undoes_toJson (p : Policy) : Policy.decoder.Undoes Policy.toJson p := by
  have hdirectives := undoes_list fun d (_ : d ∈ p.directives) => d.undoes_toJson
  refine undoes_record (s := some p.directives) rfl (fun fuel hfuel => ?_) rfl
  exact membersRead_field rfl hdirectives (hfuel _ List.mem_cons_self) rfl (.nil _)

end Csp

end PageRisk
