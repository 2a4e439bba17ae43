import ContainerReplay.Synthesis.Actions

/-!
# Synthesis

A driver replays every component of an application in container order: listeners, filters, and then
what answers requests, where components with a start-up order come first.
-/

set_option autoImplicit false

namespace ContainerReplay

namespace Component

/-- The place among the components of one role: those that answer requests and have a start-up order
of at least zero come first, in that order. -/
def startupRank (component : Component) : Nat × Int :=
  match component.kind.role, component.loadOnStartup with
  | .dispatch, some order => if 0 ≤ order then (0, order) else (1, 0)
  | _, _ => (1, 0)

/-- Container order: by role, then by start-up order, then by class name. -/
def containerOrder (first second : Component) : Ordering :=
  (compare first.kind.role.rank second.kind.role.rank).then
    ((compare first.startupRank.1 second.startupRank.1).then
      ((compare first.startupRank.2 second.startupRank.2).then
        (compare first.className second.className)))

def insertInOrder (component : Component) : List Component → List Component
  | [] => [component]
  | other :: rest =>
      -- a component stays in front of those that it equals, so that the sort is stable
      if (component.containerOrder other).isLE then component :: other :: rest
      else other :: insertInOrder component rest

/-- Components in container order; those that it does not tell apart keep their order. -/
def inContainerOrder (components : List Component) : List Component :=
  components.foldr insertInOrder []

end Component

namespace Synthesis

def builtinTemplates : List Template :=
  [servletTemplate, filterTemplate, listenerTemplate, actionTemplate]

def builtinCatalog : Catalog := Catalog.ofList builtinTemplates

def replayComponent (templates : TemplateSet) (scene : Scene) (component : Component) : Replay :=
  match templates.get? component.kind with
  | none => ⟨[], [(DetectionError.missingTemplate component.kind component.className).diagnostic]⟩
  | some template => template.instantiate scene component

def replayAll (templates : TemplateSet) (scene : Scene) (components : List Component) : Replay :=
  ⟨components.flatMap fun component => (replayComponent templates scene component).units,
    components.flatMap fun component => (replayComponent templates scene component).diagnostics⟩

def synthesize (templates : TemplateSet) (scene : Scene) : Replay :=
  replayAll templates scene (Component.inContainerOrder scene.app.componentList)

end Synthesis

end ContainerReplay
