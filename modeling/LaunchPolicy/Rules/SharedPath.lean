/-!
Where the guest finds files shared into a container.
-/

namespace LaunchPolicy

/-- Files of a container are named by sandbox, container and file, joined by hyphens. -/
def sharedContainerPath : String := "^/run/kata-containers/shared/containers/[a-z0-9]+-[a-z0-9]+-"

end LaunchPolicy
