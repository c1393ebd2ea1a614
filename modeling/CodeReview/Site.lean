import CodeReview.Contribution
import CodeReview.Label
import CodeReview.Settings
set_option autoImplicit false

/-!
What a site fixes for all its requests: the settings, the labels and the sources of plugin
contributions.
-/
namespace CodeReview

structure Site where
  settings : Settings
  labels : List Label
  factories : List Factory

def Site.ofSettings (s : Settings) : Site :=
  ⟨s, Label.standard, if s.reportsChangeSize then [.changeSize] else []⟩

end CodeReview
