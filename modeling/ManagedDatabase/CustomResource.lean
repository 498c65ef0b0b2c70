/-
What the custom resource of managed services is called.
-/
namespace ManagedDatabase.CustomResource

def group : String := "kuberlogic.com"

def version : String := "v1"

def kind : String := "KuberLogicService"

def singular : String := "kuberlogicservice"

def plural : String := "kuberlogicservices"

/-- The version as objects name it. -/
def apiVersion : String := group ++ "/" ++ version

/-- The path under which the resources of all namespaces are listed. -/
def listPath : String := "/apis/" ++ apiVersion ++ "/" ++ plural

end ManagedDatabase.CustomResource
