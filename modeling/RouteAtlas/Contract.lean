/-! # Contracts of the navigation runtime

Qualified names of the classes that generated sources refer to, of the classes that decide what a
declaration is, and the keys of the build's arguments.
-/

namespace RouteAtlas.Contract

/-- Package of the routing tables. -/
def tablePackage : String := "com.alibaba.android.arouter.routes"

def activity : String := "android.app.Activity"
def appCompatActivity : String := "androidx.appcompat.app.AppCompatActivity"
def fragment : String := "android.app.Fragment"
def fragmentX : String := "androidx.fragment.app.Fragment"
def fragmentV4 : String := "android.support.v4.app.Fragment"
def service : String := "android.app.Service"
def parcelable : String := "android.os.Parcelable"
def serializable : String := "java.io.Serializable"
def androidLog : String := "android.util.Log"
def javaMap : String := "java.util.Map"

def provider : String := "com.alibaba.android.arouter.facade.template.IProvider"
def providerGroup : String := "com.alibaba.android.arouter.facade.template.IProviderGroup"
def interceptor : String := "com.alibaba.android.arouter.facade.template.IInterceptor"
def interceptorGroup : String := "com.alibaba.android.arouter.facade.template.IInterceptorGroup"
def routeRoot : String := "com.alibaba.android.arouter.facade.template.IRouteRoot"
def routeGroup : String := "com.alibaba.android.arouter.facade.template.IRouteGroup"
def syringe : String := "com.alibaba.android.arouter.facade.template.ISyringe"
def jsonService : String := "com.alibaba.android.arouter.facade.service.SerializationService"
def typeWrapper : String := "com.alibaba.android.arouter.facade.model.TypeWrapper"
def routeMeta : String := "com.alibaba.android.arouter.facade.model.RouteMeta"
def routeType : String := "com.alibaba.android.arouter.facade.enums.RouteType"
def launcher : String := "com.alibaba.android.arouter.launcher.ARouter"

/-- Starts of the names of the generated tables, which the name of a module or group follows. -/
def rootUnit : String := "ARouter$$Root$$"
def groupUnit : String := "ARouter$$Group$$"
def providersUnit : String := "ARouter$$Providers$$"
def interceptorsUnit : String := "ARouter$$Interceptors$$"

/-- End of the name of an injector, which follows the name of its class. -/
def injectorUnit : String := "$$ARouter$$Autowired"

/-- Method of the generated tables. -/
def loadInto : String := "loadInto"

/-- Method of the generated injectors. -/
def inject : String := "inject"

/-- Notice at the head of generated sources. -/
def notice : String := "DO NOT EDIT THIS FILE!!! IT WAS GENERATED BY AROUTER."

/-- Tag of the log lines that generated sources write. -/
def logTag : String := "ARouter::"

/-- Build argument with the name of the module. -/
def moduleKey : String := "AROUTER_MODULE_NAME"

/-- Build argument that asks for the route document. -/
def docsKey : String := "AROUTER_GENERATE_DOC"

/-- Value of the build argument that asks for the route document. -/
def docsEnabled : String := "enable"

/-- Advice that goes with a missing module name. -/
def moduleAdvice : String :=
  "These no module name, at 'build.gradle', like :\nksp \x7b\n    arg(\"AROUTER_MODULE_NAME\", " ++
    "project.getName())\n\x7d\n"

end RouteAtlas.Contract
