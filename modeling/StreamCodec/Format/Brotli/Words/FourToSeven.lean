/-!
# Dictionary words of four to seven bytes

The words of each length stand one after another, in hexadecimal digits.
-/
namespace StreamCodec.Format.Brotli.Words

def four : List String := [
  "74696d65646f776e6c6966656c6566746261636b636f64656461746173686f776f6e6c797369746563697479",
  "6f70656e6a7573746c696b6566726565776f726b74657874796561726f766572626f64796c6f7665666f726d",
  "626f6f6b706c61796c6976656c696e6568656c70686f6d65736964656d6f7265776f72646c6f6e677468656d",
  "7669657766696e64706167656461797366756c6c686561647465726d656163686172656166726f6d74727565",
  "6d61726b61626c6575706f6e68696768646174656c616e646e6577736576656e6e65787463617365626f7468",
  "706f7374757365646d61646568616e6468657265776861746e616d654c696e6b626c6f6773697a6562617365",
  "68656c646d616b656d61696e757365722729202b686f6c64656e6473776974684e6577737265616477657265",
  "7369676e74616b656861766567616d657365656e63616c6c7061746877656c6c706c75736d656e7566696c6d",
  "706172746a6f696e746869736c697374676f6f646e65656477617973776573746a6f62736d696e64616c736f",
  "6c6f676f72696368757365736c6173747465616d61726d79666f6f646b696e6777696c6c6561737477617264",
  "6265737466697265506167656b6e6f77617761792e706e676d6f76657468616e6c6f61646769766573656c66",
  "6e6f74656d756368666565646d616e79726f636b69636f6e6f6e63656c6f6f6b6869646564696564486f6d65",
  "72756c65686f7374616a6178696e666f636c75626c6177736c65737368616c66736f6d65737563687a6f6e65",
  "313030256f6e65736361726554696d6572616365626c7565666f75727765656b66616365686f706567617665",
  "686172646c6f73747768656e7061726b6b6570747061737373686970726f6f6d48544d4c706c616e54797065",
  "646f6e65736176656b656570666c61676c696e6b736f6c6466697665746f6f6b72617465746f776e6a756d70",
  "746875736461726b6361726466696c6566656172737461796b696c6c7468617466616c6c6175746f65766572",
  "2e636f6d74616c6b73686f70766f7465646565706d6f6465726573747475726e626f726e62616e6466656c6c",
  "726f736575726c28736b696e726f6c65636f6d6561637473616765736d656574676f6c642e6a70676974656d",
  "7661727966656c747468656e73656e6464726f7056696577636f7079312e30223c2f613e73746f70656c7365",
  "6c696573746f75727061636b2e676966706173746373733f677261796d65616e2667743b7269646573686f74",
  "6c61746573616964726f6164766172206665656c6a6f686e7269636b706f7274666173742755412d64656164",
  "3c2f623e706f6f7262696c6c74797065552e532e776f6f646d7573743270783b496e666f72616e6b77696465",
  "77616e7477616c6c6c6561645b305d3b7061756c776176657375726524282723776169746d61737361726d73",
  "676f65736761696e6c616e6770616964212d2d206c6f636b756e6974726f6f7477616c6b6669726d77696665",
  "786d6c22736f6e6774657374323070786b696e64726f7773746f6f6c666f6e746d61696c7361666573746172",
  "6d617073636f72657261696e666c6f77626162797370616e736179733470783b3670783b61727473666f6f74",
  "7265616c77696b696865617473746570747269706f72672f6c616b657765616b746f6c64466f726d63617374",
  "66616e7362616e6b7665727972756e736a756c797461736b3170783b676f616c67726577736c6f7765646765",
  "69643d22736574733570783b2e6a733f3430707869662028736f6f6e736561746e6f6e65747562657a65726f",
  "73656e747265656466616374696e746f676966746861726d3138707863616d6568696c6c626f6c647a6f6f6d",
  "766f69646561737972696e6766696c6c7065616b696e6974636f73743370783b6a61636b7461677362697473",
  "726f6c6c656469746b6e65776e6561723c212d2d67726f774a534f4e647574794e616d6573616c65796f7520",
  "6c6f74737061696e6a617a7a636f6c6465796573666973687777772e7269736b746162737072657631307078",
  "7269736532357078426c756564696e673330302c62616c6c666f72646561726e77696c64626f782e66616972",
  "6c61636b76657273706169726a756e6574656368696628217069636b6576696c242822237761726d6c6f7264",
  "646f657370756c6c2c30303069646561647261776875676573706f7466756e646275726e6872656663656c6c",
  "6b6579737469636b686f75726c6f73736675656c31327078737569746465616c525353226167656467726579",
  "474554226561736561696d736769726c616964733870783b6e61767967726964746970732339393977617273",
  "6c61647963617273293b207d7068703f68656c6c74616c6c77686f6d7a683ae52a2f0d0a2031303068616c6c",
  "2e0a0a413770783b70757368636861743070783b637265772a2f3c2f6861736837357078666c617472617265",
  "2026262074656c6c63616d706f6e746f6c6169646d697373736b697074656e7466696e656d616c6567657473",
  "706c6f743430302c0d0a0d0a636f6f6c666565742e7068703c62723e657269636d6f73746775696462656c6c",
  "64657363686169726d61746861746f6d2f696d67262338326c75636b63656e743030303b74696e79676f6e65",
  "68746d6c73656c6c64727567465245456e6f64656e69636b3f69643d6c6f73656e756c6c7661737477696e64",
  "525353207765617272656c796265656e73616d6564756b656e617361636170657769736867756c665432333a",
  "68697473736c6f74676174656b69636b626c757274686579313570782727293b293b223e6d73696577696e73",
  "62697264736f7274626574617365656b5431383a6f726473747265656d616c6c363070786661726de2809973",
  "626f79735b305d2e27293b22504f5354626561726b696473293b7d7d6d61727974656e6428554b2971756164",
  "7a683ae62d73697a2d2d2d2d70726f7027293b0d6c6966745431393a76696365616e6479646562743e525353",
  "706f6f6c6e65636b626c6f775431363a646f6f726576616c5431373a6c6574736661696c6f72616c706f6c6c",
  "6e6f7661636f6c7367656e6520e28094736f6674726f6d6574696c6c726f73733c68333e706f757266616465",
  "70696e6b3c74723e6d696e69297c21286d696e657a683ae862617273686561723030293b6d696c6b202d2d3e",
  "69726f6e667265646469736b77656e74736f696c707574732f6a732f686f6c795432323a4953424e5432303a",
  "6164616d736565733c68323e6a736f6e272c2027636f6e745432313a205253536c6f6f70617369616d6f6f6e",
  "3c2f703e736f756c4c494e45666f7274636172745431343a3c68313e38307078212d2d3c3970783b5430343a",
  "6d696b653a34365a6e696365696e6368596f726b726963657a683ae42729293b707572656d61676570617261",
  "746f6e65626f6e643a33375a5f6f665f275d293b3030302c7a683ae774616e6b79617264626f776c62757368",
  "3a35365a4a617661333070780a7c7d0a254333253a33345a6a656666455850496361736876697361676f6c66",
  "736e6f777a683ae9717565722e6373737369636b6d6561746d696e2e62696e6464656c6c6869726570696373",
  "72656e743a33365a485454502d323031666f746f776f6c66454e442078626f783a35345a424f44596469636b",
  "3b0a7d0a657869743a33355a7661727362656174277d293b646965743939393b616e6e657d7d3c2f5b695d2e",
  "4c616e676b6dc2b277697265746f7973616464737365616c616c65783b0a097d6563686f6e696e652e6f7267",
  "30303529746f6e796a65777373616e646c656773726f6f66303030292032303077696e6567656172646f6773",
  "626f6f74676172796375747374796c6574656d7074696f6e2e786d6c636f636b67616e672428272e35307078",
  "50682e446d697363616c616e6c6f616e6465736b6d696c657279616e756e697864697363293b7d0a64757374",
  "636c6970292e0a0a373070782d32303044564473375d3e3c7461706564656d6f692b2b29776167656575726f",
  "7068696c6f707473686f6c65464151736173696e2d3236546c6162737065747355524c2062756c6b636f6f6b",
  "3b7d0d0a484541445b305d29616262726a75616e283139386c6573687477696e3c2f693e736f6e7967757973",
  "6675636b706970657c2d0a21303032296e646f775b315d3b5b5d3b0a4c6f672073616c740d0a090962616e67",
  "7472696d62617468297b0d0a303070780a7d293b6b6f3aec6665657361643e0d733a2f2f205b5d3b746f6c6c",
  "706c756728297b0a7b0d0a202e6a7327323030706475616c626f61742e4a5047293b0a7d71756f74293b0a0a",
  "27293b0a0d0a7d0d323031343230313532303136323031373230313832303139323032303230323132303232",
  "3230323332303234323032353230323632303237323032383230323932303330323033313230333232303333",
  "3230333432303335323033363230333732303133323031323230313132303130323030393230303832303037",
  "3230303632303035323030343230303332303032323030313230303031393939313939383139393731393936",
  "3139393531393934313939333139393231393931313939303139383931393838313938373139383631393835",
  "3139383431393833313938323139383131393830313937393139373831393737313937363139373531393734",
  "3139373331393732313937313139373031393639313936383139363731393636313936353139363431393633",
  "3139363231393631313936303139353931393538313935373139353631393535313935343139353331393532",
  "31393531313935303130303031303234313339343030303039393939636f6d6f6dc3a1736573746565737461",
  "7065726f746f646f686163656361646161c3b16f6269656e64c3ad616173c3ad766964616361736f6f74726f",
  "666f726f736f6c6f6f7472616375616c64696a6f7369646f6772616e7469706f74656d6164656265616c676f",
  "7175c3a96573746f6e61646174726573706f636f6361736162616a6f746f646173696e6f6167756170756573",
  "756e6f73616e7465646963656c756973656c6c616d61796f7a6f6e61616d6f727069736f6f627261636c6963",
  "656c6c6f64696f73686f726163617369d0b7d0b0d0bdd0b0d0bed0bcd180d0b0d180d183d182d0b0d0bdd0b5",
  "d0bfd0bed0bed182d0b8d0b7d0bdd0bed0b4d0bed182d0bed0b6d0b5d0bed0bdd0b8d185d09dd0b0d0b5d0b5",
  "d0b1d18bd0bcd18bd092d18bd181d0bed0b2d18bd0b2d0bed09dd0bed0bed0b1d09fd0bed0bbd0b8d0bdd0b8",
  "d0a0d0a4d09dd0b5d09cd18bd182d18bd09ed0bdd0b8d0bcd0b4d0b0d097d0b0d094d0b0d09dd183d09ed0b1",
  "d182d0b5d098d0b7d0b5d0b9d0bdd183d0bcd0bcd0a2d18bd183d0b6d981d98ad8a3d986d985d8a7d985d8b9",
  "d983d984d8a3d988d8b1d8afd98ad8a7d981d989d987d988d984d985d984d983d8a7d988d984d987d8a8d8b3",
  "d8a7d984d8a5d986d987d98ad8a3d98ad982d8afd987d984d8abd985d8a8d987d984d988d984d98ad8a8d984",
  "d8a7d98ad8a8d983d8b4d98ad8a7d985d8a3d985d986d8aad8a8d98ad984d986d8add8a8d987d985d985d8b4",
  "d988d8b4"]

def five : List String := [
  "6669727374766964656f6c69676874776f726c646d656469617768697465636c6f7365626c61636b7269676874",
  "736d616c6c626f6f6b73706c6163656d757369636669656c646f72646572706f696e7476616c75656c6576656c",
  "7461626c65626f617264686f75736567726f7570776f726b7379656172737374617465746f6461797761746572",
  "73746172747374796c656465617468706f77657270686f6e656e696768746572726f72696e70757461626f7574",
  "7465726d737469746c65746f6f6c736576656e746c6f63616c74696d65736c61726765776f72647367616d6573",
  "73686f72747370616365666f637573636c6561726d6f64656c626c6f636b6775696465726164696f7368617265",
  "776f6d656e616761696e6d6f6e6579696d6167656e616d6573796f756e676c696e65736c61746572636f6c6f72",
  "677265656e66726f6e7426616d703b7761746368666f726365707269636572756c6573626567696e6166746572",
  "76697369746973737565617265617362656c6f77696e646578746f74616c686f7572736c6162656c7072696e74",
  "70726573736275696c746c696e6b73737065656473747564797472616465666f756e6473656e7365756e646572",
  "73686f776e666f726d7372616e676561646465647374696c6c6d6f76656474616b656e61626f7665666c617368",
  "66697865646f6674656e6f746865727669657773636865636b6c6567616c72697665726974656d73717569636b",
  "736861706568756d616e6578697374676f696e676d6f7669657468697264626173696370656163657374616765",
  "77696474686c6f67696e696465617377726f746570616765737573657273647269766573746f7265627265616b",
  "736f757468766f69636573697465736d6f6e746877686572656275696c6477686963686561727468666f72756d",
  "746872656573706f72747061727479436c69636b6c6f7765726c69766573636c6173736c61796572656e747279",
  "73746f72797573616765736f756e64636f757274796f7572206269727468706f70757074797065736170706c79",
  "496d6167656265696e6775707065726e6f746573657665727973686f77736d65616e7365787472616d61746368",
  "747261636b6b6e6f776e6561726c79626567616e737570657270617065726e6f7274686c6561726e676976656e",
  "6e616d6564656e6465645465726d73706172747347726f75706272616e647573696e67776f6d616e66616c7365",
  "7265616479617564696f74616b65737768696c652e636f6d2f6c6976656463617365736461696c796368696c64",
  "67726561746a7564676574686f7365756e6974736e6576657262726f6164636f617374636f7665726170706c65",
  "66696c65736379636c657363656e65706c616e73636c69636b7772697465717565656e7069656365656d61696c",
  "6672616d656f6c64657270686f746f6c696d69746361636865636976696c7363616c65656e7465727468656d65",
  "7468657265746f756368626f756e64726f79616c61736b656477686f6c6573696e636573746f636b206e616d65",
  "66616974686865617274656d7074796f6666657273636f70656f776e65646d69676874616c62756d7468696e6b",
  "626c6f6f6461727261796d616a6f72747275737463616e6f6e756e696f6e636f756e7476616c696473746f6e65",
  "5374796c654c6f67696e68617070796f636375726c6566743a6672657368717569746566696c6d736772616465",
  "6e65656473757262616e66696768746261736973686f7665726175746f3b726f7574652e68746d6c6d69786564",
  "66696e616c596f757220736c696465746f70696362726f776e616c6f6e65647261776e73706c69747265616368",
  "526967687464617465736d6172636871756f7465676f6f64734c696e6b73646f7562746173796e637468756d62",
  "616c6c6f776368696566796f7574686e6f76656c313070783b7365727665756e74696c68616e6473436865636b",
  "537061636571756572796a616d6573657175616c7477696365302c303030537461727470616e656c736f6e6773",
  "726f756e6465696768747368696674776f727468706f7374736c656164737765656b7361766f69647468657365",
  "6d696c6573706c616e65736d617274616c706861706c616e746d61726b737261746573706c617973636c61696d",
  "73616c65737465787473737461727377726f6e673c2f68333e7468696e672e6f72672f6d756c74696865617264",
  "506f7765727374616e64746f6b656e736f6c696428746869736272696e67736869707373746166667472696564",
  "63616c6c7366756c6c7966616374736167656e7454686973202f2f2d2d3e61646d696e65677970744576656e74",
  "313570783b456d61696c747275652263726f73737370656e74626c6f6773626f78223e6e6f7465646c65617665",
  "6368696e6173697a657367756573743c2f68343e726f626f746865617679747275652c736576656e6772616e64",
  "6372696d657369676e73617761726564616e636570686173653e3c212d2d656e5f5553262333393b3230307078",
  "5f6e616d656c6174696e656e6a6f79616a61782e6174696f6e736d697468552e532e20686f6c64737065746572",
  "696e6469616e6176223e636861696e73636f7265636f6d6573646f696e677072696f7253686172653139393073",
  "726f6d616e6c697374736a6170616e66616c6c73747269616c6f776e657261677265653c2f68323e6162757365",
  "616c6572746f70657261222d2f2f57636172647368696c6c737465616d7350686f746f7472757468636c65616e",
  "2e7068703f7361696e746d6574616c6c6f7569736d65616e7470726f6f666272696566726f77223e67656e7265",
  "747275636b6c6f6f6b7356616c75654672616d652e6e65742f2d2d3e0a3c747279207b0a766172206d616b6573",
  "636f737473706c61696e6164756c747175657374747261696e6c61626f7268656c707363617573656d61676963",
  "6d6f746f72746865697232353070786c656173747374657073436f756e74636f756c64676c6173737369646573",
  "66756e6473686f74656c61776172646d6f7574686d6f7665737061726973676976657364757463687465786173",
  "66727569746e756c6c2c7c7c5b5d3b746f70223e0a3c212d2d504f5354226f6365616e3c62722f3e666c6f6f72",
  "737065616b64657074682073697a6562616e6b7363617463686368617274323070783b616c69676e6465616c73",
  "776f756c64353070783b75726c3d227061726b736d6f7573654d6f7374202e2e2e3c2f616d6f6e67627261696e",
  "626f6479206e6f6e653b6261736564636172727964726166747265666572706167655f686f6d652e6d65746572",
  "64656c6179647265616d70726f76656a6f696e743c2f74723e64727567733c212d2d20617072696c696465616c",
  "616c6c656e6578616374666f727468636f6465736c6f67696356696577207365656d73626c616e6b706f727473",
  "202832303073617665645f6c696e6b676f616c736772616e74677265656b686f6d657372696e67737261746564",
  "333070783b77686f7365706172736528293b2220426c6f636b6c696e75786a6f6e6573706978656c27293b223e",
  "293b6966282d6c6566746461766964686f727365466f6375737261697365626f786573547261636b656d656e74",
  "3c2f656d3e626172223e2e7372633d746f776572616c743d226361626c6568656e7279323470783b7365747570",
  "6974616c7973686172706d696e6f72746173746577616e7473746869732e7265736574776865656c6769726c73",
  "2f6373732f313030253b636c75627373747566666269626c65766f74657320313030306b6f7265617d293b0d0a",
  "62616e647371756575653d207b7d3b383070783b636b696e677b0d0a09096168656164636c6f636b6972697368",
  "6c696b6520726174696f7374617473466f726d227961686f6f295b305d3b41626f757466696e64733c2f68313e",
  "64656275677461736b7355524c203d63656c6c737d2928293b313270783b7072696d6574656c6c737475726e73",
  "30783630302e6a706722737061696e626561636874617865736d6963726f616e67656c2d2d3e3c2f6769667473",
  "73746576652d6c696e6b626f64792e7d293b0a096d6f756e7420283139394641513c2f726f6765726672616e6b",
  "436c617373323870783b66656564733c68313e3c73636f74747465737473323270783b6472696e6b29207c7c20",
  "6c657769737368616c6c233033393b20666f72206c6f7665647761737465303070783b6a613ae38273696d6f6e",
  "3c666f6e747265706c796d65657473756e746572636865617074696768744272616e642920213d206472657373",
  "636c697073726f6f6d736f6e6b65796d6f62696c6d61696e2e4e616d6520706c61746566756e6e797472656573",
  "636f6d2f22312e6a7067776d6f6465706172616d53544152546c65667420696464656e2c20323031293b0a7d0a",
  "666f726d2e766972757363686169727472616e73776f72737450616765736974696f6e70617463683c212d2d0a",
  "6f2d6361636669726d73746f7572732c30303020617369616e692b2b297b61646f626527295b305d69643d3130",
  "626f74683b6d656e75202e322e6d692e706e67226b6576696e636f6163684368696c646272756365322e6a7067",
  "55524c292b2e6a70677c7375697465736c69636568617272793132302220737765657474723e0d0a6e616d653d",
  "646965676f706167652073776973732d2d3e0a0a236666663b223e4c6f672e636f6d2274726561747368656574",
  "2920262620313470783b736c6565706e74656e7466696c65646a613ae38369643d22634e616d6522776f727365",
  "73686f74732d626f782d64656c74610a266c743b62656172733a34385a3c646174612d727572616c3c2f613e20",
  "7370656e6462616b657273686f70733d2022223b706870223e6374696f6e313370783b627269616e68656c6c6f",
  "73697a653d6f3d253246206a6f696e6d617962653c696d6720696d67223e2c20666a73696d67222022295b305d",
  "4d546f704254797065226e65776c7944616e736b637a656368747261696c6b6e6f77733c2f68353e666171223e",
  "7a682d636e3130293b0a2d3122293b747970653d626c7565737472756c7964617669732e6a73273b3e0d0a3c21",
  "737465656c20796f752068323e0d0a666f726d206a6573757331303025206d656e752e0d0a090d0a77616c6573",
  "7269736b73756d656e746464696e67622d6c696b74656163686769662220766567617364616e736b6565737469",
  "736871697073756f6d69736f6272656465736465656e747265746f646f73707565646561c3b16f73657374c3a1",
  "7469656e6568617374616f74726f737061727465646f6e64656e7565766f6861636572666f726d616d69736d6f",
  "6d656a6f726d756e646f617175c3ad64c3ad617373c3b36c6f61797564616665636861746f64617374616e746f",
  "6d656e6f736461746f736f74726173736974696f6d7563686f61686f72616c756761726d61796f726573746f73",
  "686f72617374656e6572616e746573666f746f7365737461737061c3ad736e7565766173616c7564666f726f73",
  "6d6564696f717569656e6d65736573706f6465726368696c65736572c3a1766563657364656369726a6f73c3a9",
  "657374617276656e7461677275706f686563686f656c6c6f7374656e676f616d69676f636f7361736e6976656c",
  "67656e74656d69736d6161697265736a756c696f74656d617368616369616661766f726a756e696f6c69627265",
  "70756e746f6275656e6f6175746f72616272696c6275656e61746578746f6d61727a6f73616265726c69737461",
  "6c7565676f63c3b36d6f656e65726f6a7565676f706572c3ba68616265726573746f796e756e63616d756a6572",
  "76616c6f7266756572616c6962726f6775737461696775616c766f746f736361736f736775c3ad61707565646f",
  "736f6d6f73617669736f7573746564646562656e6e6f636865627573636166616c74616575726f737365726965",
  "646963686f637572736f636c61766563617361736c65c3b36e706c617a6f6c6172676f6f627261737669737461",
  "61706f796f6a756e746f7472617461766973746f637265617263616d706f68656d6f7363696e636f636172676f",
  "7069736f736f7264656e686163656ec3a1726561646973636f706564726f63657263617075656461706170656c",
  "6d656e6f72c3ba74696c636c61726f6a6f72676563616c6c65706f6e657274617264656e616469656d61726361",
  "7369677565656c6c61737369676c6f636f6368656d6f746f736d61647265636c617365726573746f6e69c3b16f",
  "7175656461706173617262616e636f68696a6f737669616a657061626c6fc3a97374657669656e657265696e6f",
  "64656a6172666f6e646f63616e616c6e6f7274656c657472616361757361746f6d61726d616e6f736c756e6573",
  "6175746f7376696c6c6176656e646f70657361727469706f7374656e67616d6172636f6c6c6576617061647265",
  "756e69646f76616d6f737a6f6e6173616d626f7362616e64616d61726961616275736f6d756368617375626972",
  "72696f6a617669766972677261646f6368696361616c6cc3ad6a6f76656e6469636861657374616e74616c6573",
  "73616c69727375656c6f7065736f7366696e65736c6c616d61627573636fc3a97374616c6c6567616e6567726f",
  "706c617a6168756d6f7270616761726a756e7461646f626c6569736c6173626f6c73616261c3b16f6861626c61",
  "6c75636861c381726561646963656e6a756761726e6f74617376616c6c65616c6cc3a16361726761646f6c6f72",
  "6162616a6f657374c3a9677573746f6d656e74656d6172696f6669726d61636f73746f6669636861706c617461",
  "686f67617261727465736c65796573617175656c6d7573656f6261736573706f636f736d697461646369656c6f",
  "636869636f6d6965646f67616e617273616e746f65746170616465626573706c61796172656465737369657465",
  "636f727465636f7265616475646173646573656f7669656a6f64657365616167756173"]

def six : List String := [
  "2671756f743b646f6d61696e636f6d6d6f6e7374617475736576656e74736d617374657273797374656d",
  "616374696f6e62616e6e657272656d6f76657363726f6c6c757064617465676c6f62616c6d656469756d",
  "66696c7465726e756d6265726368616e6765726573756c747075626c696373637265656e63686f6f7365",
  "6e6f726d616c74726176656c697373756573736f75726365746172676574737072696e676d6f64756c65",
  "6d6f62696c6573776974636870686f746f73626f72646572726567696f6e697473656c66736f6369616c",
  "616374697665636f6c756d6e7265636f7264666f6c6c6f777469746c653e6569746865726c656e677468",
  "66616d696c79667269656e646c61796f7574617574686f7263726561746572657669657773756d6d6572",
  "736572766572706c61796564706c61796572657870616e64706f6c696379666f726d6174646f75626c65",
  "706f696e7473736572696573706572736f6e6c6976696e6764657369676e6d6f6e746873666f72636573",
  "756e6971756577656967687470656f706c65656e657267796e6174757265736561726368666967757265",
  "686176696e67637573746f6d6f66667365746c657474657277696e646f777375626d697472656e646572",
  "67726f75707375706c6f61646865616c74686d6574686f64766964656f737363686f6f6c667574757265",
  "736861646f7764656261746576616c7565734f626a6563746f74686572737269676874736c6561677565",
  "6368726f6d6573696d706c656e6f74696365736861726564656e64696e67736561736f6e7265706f7274",
  "6f6e6c696e65737175617265627574746f6e696d61676573656e61626c656d6f76696e676c6174657374",
  "77696e7465724672616e6365706572696f647374726f6e677265706561744c6f6e646f6e64657461696c",
  "666f726d656464656d616e64736563757265706173736564746f67676c65706c61636573646576696365",
  "73746174696363697469657373747265616d79656c6c6f7761747461636b737472656574666c69676874",
  "68696464656e696e666f223e6f70656e656475736566756c76616c6c65796361757365736c6561646572",
  "7365637265747365636f6e6464616d61676573706f727473657863657074726174696e677369676e6564",
  "7468696e67736566666563746669656c64737374617465736f666669636576697375616c656469746f72",
  "766f6c756d655265706f72746d757365756d6d6f76696573706172656e746163636573736d6f73746c79",
  "6d6f74686572222069643d226d61726b657467726f756e646368616e63657375727665796265666f7265",
  "73796d626f6c6d6f6d656e747370656563686d6f74696f6e696e736964656d617474657243656e746572",
  "6f626a6563746578697374736d6964646c654575726f706567726f7774686c65676163796d616e6e6572",
  "656e6f756768636172656572616e737765726f726967696e706f7274616c636c69656e7473656c656374",
  "72616e646f6d636c6f736564746f70696373636f6d696e676661746865726f7074696f6e73696d706c79",
  "72616973656465736361706563686f73656e636875726368646566696e65726561736f6e636f726e6572",
  "6f75747075746d656d6f7279696672616d65706f6c6963656d6f64656c734e756d626572647572696e67",
  "6f66666572737374796c65736b696c6c65646c697374656463616c6c656473696c7665726d617267696e",
  "64656c65746562657474657262726f7773656c696d697473476c6f62616c73696e676c65776964676574",
  "63656e7465726275646765746e6f77726170637265646974636c61696d73656e67696e65736166657479",
  "63686f6963657370697269742d7374796c657370726561646d616b696e676e6565646564727573736961",
  "706c65617365657874656e7453637269707462726f6b656e616c6c6f7773636861726765646976696465",
  "666163746f726d656d6265722d62617365647468656f7279636f6e66696761726f756e64776f726b6564",
  "68656c706564436875726368696d7061637473686f756c64616c776179736c6f676f2220626f74746f6d",
  "6c697374223e297b766172207072656669786f72616e67654865616465722e7075736828636f75706c65",
  "67617264656e6272696467656c61756e636852657669657774616b696e67766973696f6e6c6974746c65",
  "646174696e67427574746f6e6265617574797468656d6573666f72676f74536561726368616e63686f72",
  "616c6d6f73746c6f616465644368616e676572657475726e737472696e6772656c6f61644d6f62696c65",
  "696e636f6d65737570706c79536f757263656f7264657273766965776564266e6273703b636f75727365",
  "41626f75742069736c616e643c68746d6c20636f6f6b69656e616d653d22616d617a6f6e6d6f6465726e",
  "616476696365696e3c2f613e3a20546865206469616c6f67686f75736573424547494e204d657869636f",
  "73746172747363656e747265686569676874616464696e6749736c616e64617373657473456d70697265",
  "5363686f6f6c6566666f72746469726563746e6561726c796d616e75616c53656c6563742e0a0a4f6e65",
  "6a6f696e65646d656e75223e5068696c697061776172647368616e646c65696d706f72744f6666696365",
  "726567617264736b696c6c736e6174696f6e53706f7274736465677265657765656b6c792028652e672e",
  "626568696e64646f63746f726c6f67676564756e697465643c2f623e3c2f626567696e73706c616e7473",
  "61737369737461727469737469737375656433303070787c63616e6164616167656e6379736368656d65",
  "72656d61696e4272617a696c73616d706c656c6f676f223e6265796f6e642d7363616c65616363657074",
  "7365727665646d6172696e65466f6f74657263616d6572613c2f68313e0a5f666f726d226c6561766573",
  "73747265737322202f3e0d0a2e67696622206f6e6c6f61646c6f616465724f78666f7264736973746572",
  "7375727669766c697374656e66656d616c6544657369676e73697a653d2261707065616c74657874223e",
  "6c6576656c737468616e6b73686967686572666f72636564616e696d616c616e796f6e65416672696361",
  "616772656564726563656e7450656f706c653c6272202f3e776f6e6465727072696365737475726e6564",
  "7c7c207b7d3b6d61696e223e696e6c696e6573756e64617977726170223e6661696c656463656e737573",
  "6d696e757465626561636f6e71756f74657331353070787c65737461746572656d6f7465656d61696c22",
  "6c696e6b656472696768743b7369676e616c666f726d616c312e68746d6c7369676e75707072696e6365",
  "666c6f61743a2e706e672220666f72756d2e416363657373706170657273736f756e6473657874656e64",
  "486569676874736c696465725554462d382226616d703b204265666f72652e205769746873747564696f",
  "6f776e6572736d616e61676570726f6669746a5175657279616e6e75616c706172616d73626f75676874",
  "66616d6f7573676f6f676c656c6f6e676572692b2b29207b69737261656c736179696e67646563696465",
  "686f6d65223e686561646572656e737572656272616e6368706965636573626c6f636b3b737461746564",
  "746f70223e3c726163696e67726573697a652d2d2667743b70616369747973657875616c627572656175",
  "2e6a7067222031302c3030306f627461696e7469746c6573616d6f756e742c20496e632e636f6d656479",
  "6d656e7522206c7972696373746f6461792e696e64656564636f756e74795f6c6f676f2e46616d696c79",
  "6c6f6f6b65644d61726b65746c7365206966506c617965727475726b6579293b76617220666f72657374",
  "676976696e676572726f7273446f6d61696e7d656c73657b696e73657274426c6f673c2f666f6f746572",
  "6c6f67696e2e6661737465726167656e74733c626f647920313070782030707261676d61667269646179",
  "6a756e696f72646f6c6c6172706c61636564636f76657273706c7567696e352c3030302070616765223e",
  "626f73746f6e2e74657374286176617461727465737465645f636f756e74666f72756d73736368656d61",
  "696e6465782c66696c6c6564736861726573726561646572616c657274286170706561725375626d6974",
  "6c696e65223e626f6479223e0a2a2054686554686f756768736565696e676a65727365794e6577733c2f",
  "766572696679657870657274696e6a75727977696474683d436f6f6b69655354415254206163726f7373",
  "5f696d6167657468726561646e6174697665706f636b6574626f78223e0a53797374656d204461766964",
  "63616e6365727461626c657370726f766564417072696c207265616c6c796472697665726974656d223e",
  "6d6f7265223e626f61726473636f6c6f727363616d7075736669727374207c7c205b5d3b6d656469612e",
  "67756974617266696e69736877696474683a73686f7765644f74686572202e7068702220617373756d65",
  "6c617965727377696c736f6e73746f72657372656c69656673776564656e437573746f6d656173696c79",
  "20796f757220537472696e670a0a5768696c7461796c6f72636c6561723a7265736f72746672656e6368",
  "74686f7567682229202b20223c626f64793e627579696e676272616e64734d656d6265726e616d65223e",
  "6f7070696e67736563746f723570783b223e767370616365706f737465726d616a6f7220636f66666565",
  "6d617274696e6d617475726568617070656e3c2f6e61763e6b616e7361736c696e6b223e496d61676573",
  "3d66616c73657768696c65206873706163653026616d703b200a0a496e2020706f776572506f6c736b69",
  "2d636f6c6f726a6f7264616e426f74746f6d5374617274202d636f756e74322e68746d6c6e657773223e",
  "30312e6a70674f6e6c696e652d72696768746d696c6c657273656e696f724953424e2030302c30303020",
  "67756964657376616c756529656374696f6e7265706169722e786d6c2220207269676874732e68746d6c",
  "2d626c6f636b7265674578703a686f76657277697468696e76697267696e70686f6e65733c2f74723e0d",
  "7573696e67200a09766172203e27293b0a093c2f74643e0a3c2f74723e0a62616861736162726173696c",
  "67616c65676f6d6167796172706f6c736b69737270736b69d8b1d8afd988e4b8ade69687e7ae80e4bd93",
  "e7b981e9ab94e4bfa1e681afe4b8ade59bbde68891e4bbace4b880e4b8aae585ace58fb8e7aea1e79086",
  "e8aebae59d9be58fafe4bba5e69c8de58aa1e697b6e997b4e4b8aae4babae4baa7e59381e887aae5b7b1",
  "e4bc81e4b89ae69fa5e79c8be5b7a5e4bd9ce88194e7b3bbe6b2a1e69c89e7bd91e7ab99e68980e69c89",
  "e8af84e8aebae4b8ade5bf83e69687e7aba0e794a8e688b7e9a696e9a1b5e4bd9ce88085e68a80e69caf",
  "e997aee9a298e79bb8e585b3e4b88be8bdbde6909ce7b4a2e4bdbfe794a8e8bdafe4bbb6e59ca8e7babf",
  "e4b8bbe9a298e8b584e69699e8a786e9a291e59b9ee5a48de6b3a8e5868ce7bd91e7bb9ce694b6e8978f",
  "e58685e5aeb9e68ea8e88d90e5b882e59cbae6b688e681afe7a9bae997b4e58f91e5b883e4bb80e4b988",
  "e5a5bde58f8be7949fe6b4bbe59bbee78987e58f91e5b195e5a682e69e9ce6898be69cbae696b0e997bb",
  "e69c80e696b0e696b9e5bc8fe58c97e4baace68f90e4be9be585b3e4ba8ee69bb4e5a49ae8bf99e4b8aa",
  "e7b3bbe7bb9fe79fa5e98193e6b8b8e6888fe5b9bfe5918ae585b6e4bb96e58f91e8a1a8e5ae89e585a8",
  "e7acace4b880e4bc9ae59198e8bf9be8a18ce782b9e587bbe78988e69d83e794b5e5ad90e4b896e7958c",
  "e8aebee8aea1e5858de8b4b9e69599e882b2e58aa0e585a5e6b4bbe58aa8e4bb96e4bbace59586e59381",
  "e58d9ae5aea2e78eb0e59ca8e4b88ae6b5b7e5a682e4bd95e5b7b2e7bb8fe79599e8a880e8afa6e7bb86",
  "e7a4bee58cbae799bbe5bd95e69cace7ab99e99c80e8a681e4bbb7e6a0bce694afe68c81e59bbde99985",
  "e993bee68ea5e59bbde5aeb6e5bbbae8aebee69c8be58f8be99885e8afbbe6b395e5be8be4bd8de7bdae",
  "e7bb8fe6b58ee98089e68ba9e8bf99e6a0b7e5bd93e5898de58886e7b1bbe68e92e8a18ce59ba0e4b8ba",
  "e4baa4e69893e69c80e5908ee99fb3e4b990e4b88de883bde9809ae8bf87e8a18ce4b89ae7a791e68a80",
  "e58fafe883bde8aebee5a487e59088e4bd9ce5a4a7e5aeb6e7a4bee4bc9ae7a094e7a9b6e4b893e4b89a",
  "e585a8e983a8e9a1b9e79baee8bf99e9878ce8bf98e698afe5bc80e5a78be68385e586b5e794b5e88491",
  "e69687e4bbb6e59381e7898ce5b8aee58aa9e69687e58c96e8b584e6ba90e5a4a7e5ada6e5ada6e4b9a0",
  "e59cb0e59d80e6b58fe8a788e68a95e8b584e5b7a5e7a88be8a681e6b182e6808ee4b988e697b6e58099",
  "e58a9fe883bde4b8bbe8a681e79baee5898de8b584e8aeafe59f8ee5b882e696b9e6b395e794b5e5bdb1",
  "e68b9be88198e5a3b0e6988ee4bbbbe4bd95e581a5e5bab7e695b0e68daee7be8ee59bbde6b1bde8bda6",
  "e4bb8be7bb8de4bd86e698afe4baa4e6b581e7949fe4baa7e68980e4bba5e794b5e8af9de698bee7a4ba",
  "e4b880e4ba9be58d95e4bd8de4babae59198e58886e69e90e59cb0e59bbee69785e6b8b8e5b7a5e585b7",
  "e5ada6e7949fe7b3bbe58897e7bd91e58f8be5b896e5ad90e5af86e7a081e9a291e98193e68ea7e588b6",
  "e59cb0e58cbae59fbae69cace585a8e59bbde7bd91e4b88ae9878de8a681e7acace4ba8ce5969ce6aca2",
  "e8bf9be585a5e58f8be68385e8bf99e4ba9be88083e8af95e58f91e78eb0e59fb9e8aeade4bba5e4b88a",
  "e694bfe5ba9ce68890e4b8bae78eafe5a283e9a699e6b8afe5908ce697b6e5a8b1e4b990e58f91e98081",
  "e4b880e5ae9ae5bc80e58f91e4bd9ce59381e6a087e58786e6aca2e8bf8ee8a7a3e586b3e59cb0e696b9",
  "e4b880e4b88be4bba5e58f8ae8b4a3e4bbbbe68896e88085e5aea2e688b7e4bba3e8a1a8e7a7afe58886",
  "e5a5b3e4babae695b0e7a081e99480e594aee587bae78eb0e7a6bbe7babfe5ba94e794a8e58897e8a1a8",
  "e4b88de5908ce7bc96e8be91e7bb9fe8aea1e69fa5e8afa2e4b88de8a681e69c89e585b3e69cbae69e84",
  "e5be88e5a49ae692ade694bee7bb84e7bb87e694bfe7ad96e79bb4e68ea5e883bde58a9be69da5e6ba90",
  "e69982e99693e79c8be588b0e783ade997a8e585b3e994aee4b893e58cbae99d9ee5b8b8e88bb1e8afad",
  "e799bee5baa6e5b88ce69c9be7be8ee5a5b3e6af94e8be83e79fa5e8af86e8a784e5ae9ae5bbbae8aeae",
  "e983a8e997a8e6848fe8a781e7b2bee5bda9e697a5e69cace68f90e9ab98e58f91e8a880e696b9e99da2",
  "e59fbae98791e5a484e79086e69d83e99990e5bdb1e78987e993b6e8a18ce8bf98e69c89e58886e4baab",
  "e789a9e59381e7bb8fe890a5e6b7bbe58aa0e4b893e5aeb6e8bf99e7a78de8af9de9a298e8b5b7e69da5",
  "e4b89ae58aa1e585ace5918ae8aeb0e5bd95e7ae80e4bb8be8b4a8e9878fe794b7e4babae5bdb1e5938d",
  "e5bc95e794a8e68aa5e5918ae983a8e58886e5bfabe9809fe592a8e8afa2e697b6e5b09ae6b3a8e6848f",
  "e794b3e8afb7e5ada6e6a0a1e5ba94e8afa5e58e86e58fb2e58faae698afe8bf94e59b9ee8b4ade4b9b0",
  "e5908de7a7b0e4b8bae4ba86e68890e58a9fe8afb4e6988ee4be9be5ba94e5ada9e5ad90e4b893e9a298",
  "e7a88be5ba8fe4b880e888ace69c83e593a1e58faae69c89e585b6e5ae83e4bf9de68aa4e8808ce4b894",
  "e4bb8ae5a4a9e7aa97e58fa3e58aa8e68081e78ab6e68081e789b9e588abe8aea4e4b8bae5bf85e9a1bb",
  "e69bb4e696b0e5b08fe8afb4e68891e58091e4bd9ce4b8bae5aa92e4bd93e58c85e68bace982a3e4b988",
  "e4b880e6a0b7e59bbde58685e698afe590a6e6a0b9e68daee794b5e8a786e5ada6e999a2e585b7e69c89",
  "e8bf87e7a88be794b1e4ba8ee4babae6898de587bae69da5e4b88de8bf87e6ada3e59ca8e6988ee6989f",
  "e69585e4ba8be585b3e7b3bbe6a087e9a298e59586e58aa1e8be93e585a5e4b880e79bb4e59fbae7a180",
  "e69599e5ada6e4ba86e8a7a3e5bbbae7ad91e7bb93e69e9ce585a8e79083e9809ae79fa5e8aea1e58892",
  "e5afb9e4ba8ee889bae69cafe79bb8e5868ce58f91e7949fe79c9fe79a84e5bbbae7ab8be7ad89e7baa7",
  "e7b1bbe59e8be7bb8fe9aa8ce5ae9ee78eb0e588b6e4bd9ce69da5e887aae6a087e7adbee4bba5e4b88b",
  "e58e9fe5889be697a0e6b395e585b6e4b8ade5808be4babae4b880e58887e68c87e58d97e585b3e997ad",
  "e99b86e59ba2e7acace4b889e585b3e6b3a8e59ba0e6ada4e785a7e78987e6b7b1e59cb3e59586e4b89a",
  "e5b9bfe5b79ee697a5e69c9fe9ab98e7baa7e69c80e8bf91e7bbbce59088e8a1a8e7a4bae4b893e8be91",
  "e8a18ce4b8bae4baa4e9809ae8af84e4bbb7e8a789e5be97e7b2bee58d8ee5aeb6e5baade5ae8ce68890",
  "e6849fe8a789e5ae89e8a385e5be97e588b0e982aee4bbb6e588b6e5baa6e9a39fe59381e899bde784b6",
  "e8bdace8bdbde68aa5e4bbb7e8aeb0e88085e696b9e6a188e8a18ce694bfe4babae6b091e794a8e59381",
  "e4b89ce8a5bfe68f90e587bae98592e5ba97e784b6e5908ee4bb98e6acbee783ade782b9e4bba5e5898d",
  "e5ae8ce585a8e58f91e5b896e8aebee7bdaee9a286e5afbce5b7a5e4b89ae58cbbe999a2e79c8be79c8b",
  "e7bb8fe585b8e58e9fe59ba0e5b9b3e58fb0e59084e7a78de5a29ee58aa0e69d90e69699e696b0e5a29e",
  "e4b98be5908ee8818ce4b89ae69588e69e9ce4bb8ae5b9b4e8aebae69687e68891e59bbde5918ae8af89",
  "e78988e4b8bbe4bfaee694b9e58f82e4b88ee68993e58db0e5bfabe4b990e69cbae6a2b0e8a782e782b9",
  "e5ad98e59ca8e7b2bee7a59ee88eb7e5be97e588a9e794a8e7bba7e7bbade4bda0e4bbace8bf99e4b988",
  "e6a8a1e5bc8fe8afade8a880e883bde5a49fe99b85e8998ee6938de4bd9ce9a38ee6a0bce4b880e8b5b7",
  "e7a791e5ada6e4bd93e882b2e79fade4bfa1e69da1e4bbb6e6b2bbe79697e8bf90e58aa8e4baa7e4b89a",
  "e4bc9ae8aeaee5afbce888aae58588e7949fe88194e79b9fe58fafe698afe5958fe9a18ce7bb93e69e84",
  "e4bd9ce794a8e8b083e69fa5e8b387e69699e887aae58aa8e8b49fe8b4a3e5869ce4b89ae8aebfe997ae",
  "e5ae9ee696bde68ea5e58f97e8aea8e8aebae982a3e4b8aae58f8de9a688e58aa0e5bcbae5a5b3e680a7",
  "e88c83e59bb4e69c8de58b99e4bc91e997b2e4bb8ae697a5e5aea2e69c8de8a780e79c8be58f82e58aa0",
  "e79a84e8af9de4b880e782b9e4bf9de8af81e59bbee4b9a6e69c89e69588e6b58be8af95e7a7bbe58aa8",
  "e6898de883bde586b3e5ae9ae882a1e7a5a8e4b88de696ade99c80e6b182e4b88de5be97e58a9ee6b395",
  "e4b98be997b4e98787e794a8e890a5e99480e68a95e8af89e79baee6a087e788b1e68385e69184e5bdb1",
  "e69c89e4ba9be8a487e8a3bde69687e5ada6e69cbae4bc9ae695b0e5ad97e8a385e4bfaee8b4ade789a9",
  "e5869ce69d91e585a8e99da2e7b2bee59381e585b6e5ae9ee4ba8be68385e6b0b4e5b9b3e68f90e7a4ba",
  "e4b88ae5b882e8b0a2e8b0a2e699aee9809ae69599e5b888e4b88ae4bca0e7b1bbe588abe6ad8ce69bb2",
  "e68ba5e69c89e5889be696b0e9858de4bbb6e58faae8a681e697b6e4bba3e8b387e8a88ae8bebee588b0",
  "e4babae7949fe8aea2e99885e88081e5b888e5b195e7a4bae5bf83e79086e8b4b4e5ad90e7b6b2e7ab99",
  "e4b8bbe9a18ce887aae784b6e7baa7e588abe7ae80e58d95e694b9e99da9e982a3e4ba9be69da5e8afb4",
  "e68993e5bc80e4bba3e7a081e588a0e999a4e8af81e588b8e88a82e79baee9878de782b9e6aca1e695b8",
  "e5a49ae5b091e8a784e58892e8b584e98791e689bee588b0e4bba5e5908ee5a4a7e585a8e4b8bbe9a1b5",
  "e69c80e4bdb3e59b9ee7ad94e5a4a9e4b88be4bf9de99a9ce78eb0e4bba3e6a380e69fa5e68a95e7a5a8",
  "e5b08fe697b6e6b292e69c89e6ada3e5b8b8e7949ae887b3e4bba3e79086e79baee5bd95e585ace5bc80",
  "e5a48de588b6e98791e89e8de5b9b8e7a68fe78988e69cace5bda2e68890e58786e5a487e8a18ce68385",
  "e59b9ee588b0e6809de683b3e6808ee6a0b7e58d8fe8aeaee8aea4e8af81e69c80e5a5bde4baa7e7949f",
  "e68c89e785a7e69c8de8a385e5b9bfe4b89ce58aa8e6bcabe98787e8b4ade696b0e6898be7bb84e59bbe",
  "e99da2e69dbfe58f82e88083e694bfe6b2bbe5aeb9e69893e5a4a9e59cb0e58aaae58a9be4babae4bbac",
  "e58d87e7baa7e9809fe5baa6e4babae789a9e8b083e695b4e6b581e8a18ce980a0e68890e69687e5ad97",
  "e99fa9e59bbde8b4b8e69893e5bc80e5b195e79bb8e9979ce8a1a8e78eb0e5bdb1e8a786e5a682e6ada4",
  "e7be8ee5aeb9e5a4a7e5b08fe68aa5e98193e69da1e6acbee5bf83e68385e8aeb8e5a49ae6b395e8a784",
  "e5aeb6e5b185e4b9a6e5ba97e8bf9ee68ea5e7ab8be58db3e4b8bee68aa5e68a80e5b7a7e5a5a5e8bf90",
  "e799bbe585a5e4bba5e69da5e79086e8aebae4ba8be4bbb6e887aae794b1e4b8ade58d8ee58a9ee585ac",
  "e5a688e5a688e79c9fe6ada3e4b88de99499e585a8e69687e59088e5908ce4bbb7e580bce588abe4baba",
  "e79b91e79da3e585b7e4bd93e4b896e7baaae59ba2e9989fe5889be4b89ae689bfe68b85e5a29ee995bf",
  "e69c89e4babae4bf9de68c81e59586e5aeb6e7bbb4e4bfaee58fb0e6b9bee5b7a6e58fb3e882a1e4bbbd",
  "e7ad94e6a188e5ae9ee99985e794b5e4bfa1e7bb8fe79086e7949fe591bde5aea3e4bca0e4bbbbe58aa1",
  "e6ada3e5bc8fe789b9e889b2e4b88be69da5e58d8fe4bc9ae58faae883bde5bd93e784b6e9878de696b0",
  "e585a7e5aeb9e68c87e5afbce8bf90e8a18ce697a5e5bf97e8b3a3e5aeb6e8b685e8bf87e59c9fe59cb0",
  "e6b599e6b19fe694afe4bb98e68ea8e587bae7ab99e995bfe69dade5b79ee689a7e8a18ce588b6e980a0",
  "e4b98be4b880e68ea8e5b9bfe78eb0e59cbae68f8fe8bfb0e58f98e58c96e4bca0e7bb9fe6ad8ce6898b",
  "e4bf9de999a9e8afbee7a88be58cbbe79697e7bb8fe8bf87e8bf87e58ebbe4b98be5898de694b6e585a5",
  "e5b9b4e5baa6e69d82e5bf97e7be8ee4b8bde69c80e9ab98e799bbe99986e69caae69da5e58aa0e5b7a5",
  "e5858de8b4a3e69599e7a88be78988e59d97e8baabe4bd93e9878de5ba86e587bae594aee68890e69cac",
  "e5bda2e5bc8fe59c9fe8b186e587bae583b9e4b89ce696b9e982aee7aeb1e58d97e4baace6b182e8818c",
  "e58f96e5be97e8818ce4bd8de79bb8e4bfa1e9a1b5e99da2e58886e9929fe7bd91e9a1b5e7a1aee5ae9a",
  "e59bbee4be8be7bd91e59d80e7a7afe69e81e99499e8afafe79baee79a84e5ae9de8b49de69cbae585b3",
  "e9a38ee999a9e68e88e69d83e79785e6af92e5aea0e789a9e999a4e4ba86e8a995e8ab96e796bee79785",
  "e58f8ae697b6e6b182e8b4ade7ab99e782b9e584bfe7aba5e6af8fe5a4a9e4b8ade5a4aee8aea4e8af86",
  "e6af8fe4b8aae5a4a9e6b4a5e5ad97e4bd93e58fb0e781a3e7bbb4e68aa4e69cace9a1b5e4b8aae680a7",
  "e5ae98e696b9e5b8b8e8a781e79bb8e69cbae68898e795a5e5ba94e5bd93e5be8be5b888e696b9e4bebf",
  "e6a0a1e59bade882a1e5b882e688bfe5b18be6a08fe79baee59198e5b7a5e5afbce887b4e7aa81e784b6",
  "e98193e585b7e69cace7bd91e7bb93e59088e6a1a3e6a188e58ab3e58aa8e58fa6e5a496e7be8ee58583",
  "e5bc95e8b5b7e694b9e58f98e7acace59b9be4bc9ae8aea1e8aaaae6988ee99a90e7a781e5ae9de5ae9d",
  "e8a784e88c83e6b688e8b4b9e585b1e5908ce5bf98e8aeb0e4bd93e7b3bbe5b8a6e69da5e5908de5ad97",
  "e799bce8a1a8e5bc80e694bee58aa0e79b9fe58f97e588b0e4ba8ce6898be5a4a7e9878fe68890e4baba",
  "e695b0e9878fe585b1e4baabe58cbae59f9fe5a5b3e5ada9e58e9fe58899e68980e59ca8e7bb93e69d9f",
  "e9809ae4bfa1e8b685e7baa7e9858de7bdaee5bd93e697b6e4bc98e7a780e680a7e6849fe688bfe4baa7",
  "e9818ae688b2e587bae58fa3e68f90e4baa4e5b0b1e4b89ae4bf9de581a5e7a88be5baa6e58f82e695b0",
  "e4ba8be4b89ae695b4e4b8aae5b1b1e4b89ce68385e6849fe789b9e6ae8ae58886e9a19ee6909ce5b08b",
  "e5b19ee4ba8ee997a8e688b7e8b4a2e58aa1e5a3b0e99fb3e58f8ae585b6e8b4a2e7bb8fe59d9ae68c81",
  "e5b9b2e983a8e68890e7ab8be588a9e79b8ae88083e89991e68890e983bde58c85e8a385e794a8e688b6",
  "e6af94e8b59be69687e6988ee68b9be59586e5ae8ce695b4e79c9fe698afe79cbce79d9be4bc99e4bcb4",
  "e5a881e69c9be9a286e59f9fe58dabe7949fe4bc98e683a0e8ab96e5a387e585ace585b1e889afe5a5bd",
  "e58585e58886e7aca6e59088e99984e4bbb6e789b9e782b9e4b88de58fafe88bb1e69687e8b584e4baa7",
  "e6a0b9e69cace6988ee698bee5af86e7a2bce585ace4bc97e6b091e6978fe69bb4e58aa0e4baabe58f97",
  "e5908ce5ada6e590afe58aa8e98082e59088e58e9fe69da5e997aee7ad94e69cace69687e7be8ee9a39f",
  "e7bbbfe889b2e7a8b3e5ae9ae7bb88e4ba8ee7949fe789a9e4be9be6b182e6909ce78b90e58a9be9878f",
  "e4b8a5e9878de6b0b8e8bf9ce58699e79c9fe69c89e99990e7ab9ee4ba89e5afb9e8b1a1e8b4b9e794a8",
  "e4b88de5a5bde7bb9de5afb9e58d81e58886e4bf83e8bf9be782b9e8af84e5bdb1e99fb3e4bc98e58abf",
  "e4b88de5b091e6aca3e8b58fe5b9b6e4b894e69c89e782b9e696b9e59091e585a8e696b0e4bfa1e794a8",
  "e8aebee696bde5bda2e8b1a1e8b584e6a0bce7aa81e7a0b4e99a8fe79d80e9878de5a4a7e4ba8ee698af",
  "e6af95e4b89ae699bae883bde58c96e5b7a5e5ae8ce7be8ee59586e59f8ee7bb9fe4b880e587bae78988",
  "e68993e980a0e794a2e59381e6a682e586b5e794a8e4ba8ee4bf9de79599e59ba0e7b4a0e4b8ade59c8b",
  "e5ad98e582a8e8b4b4e59bbee69c80e6849be995bfe69c9fe58fa3e4bbb7e79086e8b4a2e59fbae59cb0",
  "e5ae89e68e92e6ada6e6b189e9878ce99da2e5889be5bbbae5a4a9e7a9bae9a696e58588e5ae8ce59684",
  "e9a9b1e58aa8e4b88be99da2e4b88de5868de8af9ae4bfa1e6848fe4b989e998b3e58589e88bb1e59bbd",
  "e6bc82e4baaee5869be4ba8be78ea9e5aeb6e7bea4e4bc97e5869ce6b091e58db3e58fafe5908de7a8b1",
  "e5aeb6e585b7e58aa8e794bbe683b3e588b0e6b3a8e6988ee5b08fe5ada6e680a7e883bde88083e7a094",
  "e7a1ace4bbb6e8a782e79c8be6b885e6a59ae6909ee7ac91e9a696e9a081e9bb84e98791e98082e794a8",
  "e6b19fe88b8fe79c9fe5ae9ee4b8bbe7aea1e998b6e6aeb5e8a8bbe5868ae7bfbbe8af91e69d83e588a9",
  "e5819ae5a5bde4bcbce4b98ee9809ae8aeafe696bde5b7a5e78b80e6858be4b99fe8aeb8e78eafe4bf9d",
  "e59fb9e585bbe6a682e5bfb5e5a4a7e59e8be69cbae7a5a8e79086e8a7a3e58cbfe5908d6375616e646f",
  "656e766961726d6164726964627573636172696e6963696f7469656d706f706f727175656375656e7461",
  "65737461646f70756564656e6a7565676f73636f6e747261657374c3a16e6e6f6d6272657469656e656e",
  "70657266696c6d616e657261616d69676f7363697564616463656e74726f61756e717565707565646573",
  "64656e74726f7072696d657270726563696f736567c3ba6e6275656e6f73766f6c76657270756e746f73",
  "73656d616e61686162c3ad6161676f73746f6e7565766f73756e69646f736361726c6f7365717569706f",
  "6e69c3b16f736d7563686f73616c67756e61636f7272656f696d6167656e706172746972617272696261",
  "6d6172c3ad61686f6d627265656d706c656f76657264616463616d62696f6d7563686173667565726f6e",
  "70617361646f6cc3ad6e65617061726563656e7565766173637572736f7365737461626171756965726f",
  "6c6962726f736375616e746f61636365736f6d696775656c766172696f7363756174726f7469656e6573",
  "677275706f73736572c3a16e6575726f70616d6564696f736672656e746561636572636164656dc3a173",
  "6f6665727461636f636865736d6f64656c6f6974616c69616c6574726173616c67c3ba6e636f6d707261",
  "6375616c657365786973746563756572706f7369656e646f7072656e73616c6c656761727669616a6573",
  "64696e65726f6d7572636961706f6472c3a170756573746f64696172696f707565626c6f717569657265",
  "6d616e75656c70726f70696f63726973697363696572746f73656775726f6d75657274656675656e7465",
  "6365727261726772616e646565666563746f7061727465736d656469646170726f7069616f6672656365",
  "746965727261652d6d61696c766172696173666f726d617366757475726f6f626a65746f736567756972",
  "72696573676f6e6f726d61736d69736d6f73c3ba6e69636f63616d696e6f736974696f7372617ac3b36e",
  "64656269646f707275656261746f6c65646f74656ec3ad616a6573c3ba7365737065726f636f63696e61",
  "6f726967656e7469656e64616369656e746f63c3a164697a6861626c6172736572c3ad616c6174696e61",
  "667565727a61657374696c6f677565727261656e74726172c3a97869746f6cc3b370657a6167656e6461",
  "76c3ad64656f657669746172706167696e616d6574726f736a617669657270616472657366c3a163696c",
  "636162657a61c3a17265617373616c696461656e76c3ad6f6a6170c3b36e616275736f736269656e6573",
  "746578746f736c6c6576617270756564616e667565727465636f6dc3ba6e636c6173657368756d616e6f",
  "74656e69646f62696c62616f756e69646164657374c3a17365646974617263726561646fd0b4d0bbd18f",
  "d187d182d0bed0bad0b0d0bad0b8d0bbd0b8d18dd182d0bed0b2d181d0b5d0b5d0b3d0bed0bfd180d0b8",
  "d182d0b0d0bad0b5d189d0b5d183d0b6d0b5d09ad0b0d0bad0b1d0b5d0b7d0b1d18bd0bbd0bed0bdd0b8",
  "d092d181d0b5d0bfd0bed0b4d0add182d0bed182d0bed0bcd187d0b5d0bcd0bdd0b5d182d0bbd0b5d182",
  "d180d0b0d0b7d0bed0bdd0b0d0b3d0b4d0b5d0bcd0bdd0b5d094d0bbd18fd09fd180d0b8d0bdd0b0d181",
  "d0bdd0b8d185d182d0b5d0bcd0bad182d0bed0b3d0bed0b4d0b2d0bed182d182d0b0d0bcd0a1d0a8d090",
  "d0bcd0b0d18fd0a7d182d0bed0b2d0b0d181d0b2d0b0d0bcd0b5d0bcd183d0a2d0b0d0bad0b4d0b2d0b0",
  "d0bdd0b0d0bcd18dd182d0b8d18dd182d183d092d0b0d0bcd182d0b5d185d0bfd180d0bed182d183d182",
  "d0bdd0b0d0b4d0b4d0bdd18fd092d0bed182d182d180d0b8d0bdd0b5d0b9d092d0b0d181d0bdd0b8d0bc",
  "d181d0b0d0bcd182d0bed182d180d183d0b1d09ed0bdd0b8d0bcd0b8d180d0bdd0b5d0b5d09ed09ed09e",
  "d0bbd0b8d186d18dd182d0b0d09ed0bdd0b0d0bdd0b5d0bcd0b4d0bed0bcd0bcd0bed0b9d0b4d0b2d0b5",
  "d0bed0bdd0bed181d183d0b4e0a495e0a587e0a4b9e0a588e0a495e0a580e0a4b8e0a587e0a495e0a4be",
  "e0a495e0a58be0a494e0a4b0e0a4aae0a4b0e0a4a8e0a587e0a48fe0a495e0a495e0a4bfe0a4ade0a580",
  "e0a487e0a4b8e0a495e0a4b0e0a4a4e0a58be0a4b9e0a58be0a486e0a4aae0a4b9e0a580e0a4afe0a4b9",
  "e0a4afe0a4bee0a4a4e0a495e0a4a5e0a4be6a616772616ee0a486e0a49ce0a49ce0a58be0a485e0a4ac",
  "e0a4a6e0a58be0a497e0a488e0a49ce0a4bee0a497e0a48fe0a4b9e0a4aee0a487e0a4a8e0a4b5e0a4b9",
  "e0a4afe0a587e0a4a5e0a587e0a4a5e0a580e0a498e0a4b0e0a49ce0a4ace0a4a6e0a580e0a495e0a488",
  "e0a49ce0a580e0a4b5e0a587e0a4a8e0a488e0a4a8e0a48fe0a4b9e0a4b0e0a489e0a4b8e0a4aee0a587",
  "e0a495e0a4aee0a4b5e0a58be0a4b2e0a587e0a4b8e0a4ace0a4aee0a488e0a4a6e0a587e0a493e0a4b0",
  "e0a486e0a4aee0a4ace0a4b8e0a4ade0a4b0e0a4ace0a4a8e0a49ae0a4b2e0a4aee0a4a8e0a486e0a497",
  "e0a4b8e0a580e0a4b2e0a580d8b9d984d989d8a5d984d989d987d8b0d8a7d8a2d8aed8b1d8b9d8afd8af",
  "d8a7d984d989d987d8b0d987d8b5d988d8b1d8bad98ad8b1d983d8a7d986d988d984d8a7d8a8d98ad986",
  "d8b9d8b1d8b6d8b0d984d983d987d986d8a7d98ad988d985d982d8a7d984d8b9d984d98ad8a7d986d8a7",
  "d984d983d986d8add8aad989d982d8a8d984d988d8add8a9d8a7d8aed8b1d981d982d8b7d8b9d8a8d8af",
  "d8b1d983d986d8a5d8b0d8a7d983d985d8a7d8a7d8add8afd8a5d984d8a7d981d98ad987d8a8d8b9d8b6",
  "d983d98ad981d8a8d8add8abd988d985d986d988d987d988d8a3d986d8a7d8acd8afd8a7d984d987d8a7",
  "d8b3d984d985d8b9d986d8afd984d98ad8b3d8b9d8a8d8b1d8b5d984d989d985d986d8b0d8a8d987d8a7",
  "d8a3d986d987d985d8abd984d983d986d8aad8a7d984d8a7d8add98ad8abd985d8b5d8b1d8b4d8b1d8ad",
  "d8add988d984d988d981d98ad8a7d8b0d8a7d984d983d984d985d8b1d8a9d8a7d986d8aad8a7d984d981",
  "d8a3d8a8d988d8aed8a7d8b5d8a3d986d8aad8a7d986d987d8a7d984d98ad8b9d8b6d988d988d982d8af",
  "d8a7d8a8d986d8aed98ad8b1d8a8d986d8aad984d983d985d8b4d8a7d8a1d988d987d98ad8a7d8a8d988",
  "d982d8b5d8b5d988d985d8a7d8b1d982d985d8a3d8add8afd986d8add986d8b9d8afd985d8b1d8a3d98a",
  "d8a7d8add8a9d983d8aad8a8d8afd988d986d98ad8acd8a8d985d986d987d8aad8add8aad8acd987d8a9",
  "d8b3d986d8a9d98ad8aad985d983d8b1d8a9d8bad8b2d8a9d986d981d8b3d8a8d98ad8aad984d984d987",
  "d984d986d8a7d8aad984d983d982d984d8a8d984d985d8a7d8b9d986d987d8a3d988d984d8b4d98ad8a1",
  "d986d988d8b1d8a3d985d8a7d981d98ad983d8a8d983d984d8b0d8a7d8aad8b1d8aad8a8d8a8d8a3d986",
  "d987d985d8b3d8a7d986d983d8a8d98ad8b9d981d982d8afd8add8b3d986d984d987d985d8b4d8b9d8b1",
  "d8a3d987d984d8b4d987d8b1d982d8b7d8b1d8b7d984d8a8"]

def seven : List String := [
  "70726f66696c657365727669636564656661756c7468696d73656c6664657461696c73636f6e74656e74",
  "737570706f7274737461727465646d6573736167657375636365737366617368696f6e3c7469746c653e",
  "636f756e7472796163636f756e746372656174656473746f72696573726573756c747372756e6e696e67",
  "70726f6365737377726974696e676f626a6563747376697369626c6577656c636f6d6561727469636c65",
  "756e6b6e6f776e6e6574776f726b636f6d70616e7964796e616d696362726f7773657270726976616379",
  "70726f626c656d5365727669636572657370656374646973706c61797265717565737472657365727665",
  "77656273697465686973746f7279667269656e64736f7074696f6e73776f726b696e6776657273696f6e",
  "6d696c6c696f6e6368616e6e656c77696e646f772e616464726573737669736974656477656174686572",
  "636f727265637470726f6475637465646972656374666f7277617264796f752063616e72656d6f766564",
  "7375626a656374636f6e74726f6c6172636869766563757272656e7472656164696e676c696272617279",
  "6c696d697465646d616e616765726675727468657273756d6d6172796d616368696e656d696e75746573",
  "70726976617465636f6e7465787470726f6772616d736f63696574796e756d626572737772697474656e",
  "656e61626c656474726967676572736f75726365736c6f6164696e67656c656d656e74706172746e6572",
  "66696e616c6c79706572666563746d65616e696e6773797374656d736b656570696e6763756c74757265",
  "2671756f743b2c6a6f75726e616c70726f6a65637473757266616365732671756f743b65787069726573",
  "7265766965777362616c616e6365456e676c697368436f6e74656e747468726f756768506c6561736520",
  "6f70696e696f6e636f6e74616374617665726167657072696d61727976696c6c6167655370616e697368",
  "67616c6c6572796465636c696e656d656574696e676d697373696f6e706f70756c61727175616c697479",
  "6d65617375726567656e6572616c7370656369657373657373696f6e73656374696f6e77726974657273",
  "636f756e746572696e697469616c7265706f727473666967757265736d656d62657273686f6c64696e67",
  "646973707574656561726c696572657870726573736469676974616c70696374757265416e6f74686572",
  "6d617272696564747261666669636c656164696e676368616e67656463656e7472616c766963746f7279",
  "696d616765732f726561736f6e7373747564696573666561747572656c697374696e676d757374206265",
  "7363686f6f6c7356657273696f6e757375616c6c79657069736f6465706c6179696e6767726f77696e67",
  "6f6276696f75736f7665726c617970726573656e74616374696f6e733c2f756c3e0d0a77726170706572",
  "616c72656164796365727461696e7265616c69747973746f72616765616e6f746865726465736b746f70",
  "6f6666657265647061747465726e756e757375616c4469676974616c6361706974616c57656273697465",
  "6661696c757265636f6e6e65637472656475636564416e64726f696464656361646573726567756c6172",
  "2026616d703b20616e696d616c7372656c656173654175746f6d617467657474696e676d6574686f6473",
  "6e6f7468696e67506f70756c617263617074696f6e6c65747465727363617074757265736369656e6365",
  "6c6963656e73656368616e676573456e676c616e643d3126616d703b486973746f7279203d206e657720",
  "43656e7472616c757064617465645370656369616c4e6574776f726b72657175697265636f6d6d656e74",
  "7761726e696e67436f6c6c656765746f6f6c62617272656d61696e7362656361757365656c6563746564",
  "4465757473636866696e616e6365776f726b657273717569636b6c796265747765656e65786163746c79",
  "73657474696e6764697365617365536f6369657479776561706f6e7365786869626974266c743b212d2d",
  "436f6e74726f6c636c6173736573636f76657265646f75746c696e6561747461636b7364657669636573",
  "2877696e646f77707572706f73657469746c653d224d6f62696c65206b696c6c696e6773686f77696e67",
  "4974616c69616e64726f7070656468656176696c79656666656374732d31275d293b0a636f6e6669726d",
  "43757272656e74616476616e636573686172696e676f70656e696e6764726177696e6762696c6c696f6e",
  "6f7264657265644765726d616e7972656c617465643c2f666f726d3e696e636c75646577686574686572",
  "646566696e6564536369656e6365636174616c6f6741727469636c65627574746f6e736c617267657374",
  "756e69666f726d6a6f75726e6579736964656261724368696361676f686f6c6964617947656e6572616c",
  "706173736167652c2671756f743b616e696d6174656665656c696e676172726976656470617373696e67",
  "6e61747572616c726f7567686c792e0a0a54686520627574206e6f7464656e736974794272697461696e",
  "4368696e6573656c61636b206f66747269627574654972656c616e642220646174612d666163746f7273",
  "72656365697665746861742069734c69627261727968757362616e64696e206661637461666661697273",
  "436861726c65737261646963616c62726f7567687466696e64696e676c616e64696e673a6c616e673d22",
  "72657475726e206c656164657273706c616e6e65647072656d69756d7061636b616765416d6572696361",
  "45646974696f6e5d2671756f743b4d6573736167656e65656420746f76616c75653d22636f6d706c6578",
  "6c6f6f6b696e6773746174696f6e62656c69657665736d616c6c65722d6d6f62696c657265636f726473",
  "77616e7420746f6b696e64206f6646697265666f78796f752061726573696d696c617273747564696564",
  "6d6178696d756d68656164696e6772617069646c79636c696d6174656b696e67646f6d656d6572676564",
  "616d6f756e7473666f756e64656470696f6e656572666f726d756c6164796e61737479686f7720746f20",
  "537570706f7274726576656e756565636f6e6f6d79526573756c747362726f74686572736f6c64696572",
  "6c617267656c7963616c6c696e672e2671756f743b4163636f756e74456477617264207365676d656e74",
  "526f62657274206566666f727473506163696669636c6561726e6564757020776974686865696768743a",
  "77652068617665416e67656c65736e6174696f6e735f7365617263686170706c69656461637175697265",
  "6d6173736976656772616e7465643a2066616c7365747265617465646269676765737462656e65666974",
  "64726976696e67537475646965736d696e696d756d706572686170736d6f726e696e6773656c6c696e67",
  "697320757365647265766572736576617269616e7420726f6c653d226d697373696e6761636869657665",
  "70726f6d6f746573747564656e74736f6d656f6e6565787472656d65726573746f7265626f74746f6d3a",
  "65766f6c766564616c6c20746865736974656d6170656e676c69736877617920746f2020417567757374",
  "73796d626f6c73436f6d70616e796d6174746572736d75736963616c616761696e737473657276696e67",
  "7d2928293b0d0a7061796d656e7474726f75626c65636f6e63657074636f6d70617265706172656e7473",
  "706c6179657273726567696f6e736d6f6e69746f722027275468652077696e6e696e676578706c6f7265",
  "6164617074656447616c6c65727970726f647563656162696c697479656e68616e636563617265657273",
  "292e2054686520636f6c6c65637453656172636820616e6369656e7465786973746564666f6f74657220",
  "68616e646c65727072696e746564636f6e736f6c654561737465726e6578706f72747377696e646f7773",
  "4368616e6e656c696c6c6567616c6e65757472616c737567676573745f6865616465727369676e696e67",
  "2e68746d6c223e736574746c65647765737465726e63617573696e672d7765626b6974636c61696d6564",
  "4a7573746963656368617074657276696374696d7354686f6d6173206d6f7a696c6c6170726f6d697365",
  "7061727469657365646974696f6e6f7574736964653a66616c73652c68756e647265644f6c796d706963",
  "5f627574746f6e617574686f7273726561636865646368726f6e696364656d616e64737365636f6e6473",
  "70726f7465637461646f70746564707265706172656e65697468657267726561746c7967726561746572",
  "6f766572616c6c696d70726f7665636f6d6d616e647370656369616c7365617263682e776f7273686970",
  "66756e64696e6774686f7567687468696768657374696e73746561647574696c69747971756172746572",
  "43756c7475726574657374696e67636c6561726c796578706f73656442726f777365726c69626572616c",
  "7d20636174636850726f6a6563746578616d706c656869646528293b466c6f72696461616e7377657273",
  "616c6c6f776564456d7065726f72646566656e7365736572696f757366726565646f6d5365766572616c",
  "2d627574746f6e467572746865726f7574206f6620213d206e756c6c747261696e656444656e6d61726b",
  "766f69642830292f616c6c2e6a7370726576656e74526571756573745374657068656e0a0a5768656e20",
  "6f6273657276653c2f68323e0d0a4d6f6465726e2070726f766964652220616c743d22626f7264657273",
  "2e0a0a466f72200a0a4d616e792061727469737473706f7765726564706572666f726d66696374696f6e",
  "74797065206f666d65646963616c7469636b6574736f70706f736564436f756e63696c7769746e657373",
  "6a75737469636547656f7267652042656c6769756d2e2e2e3c2f613e747769747465726e6f7461626c79",
  "77616974696e6777617266617265204f746865722072616e6b696e67706872617365736d656e74696f6e",
  "737572766976657363686f6c61723c2f703e0d0a20436f756e74727969676e6f7265646c6f7373206f66",
  "6a75737420617347656f72676961737472616e67653c686561643e3c73746f7070656431275d293b0d0a",
  "69736c616e64736e6f7461626c65626f726465723a6c697374206f66636172726965643130302c303030",
  "3c2f68333e0a207365766572616c6265636f6d657373656c6563742077656464696e6730302e68746d6c",
  "6d6f6e617263686f66662074686574656163686572686967686c792062696f6c6f67796c696665206f66",
  "6f72206576656e72697365206f6626726171756f3b706c75736f6e6568756e74696e672874686f756768",
  "446f75676c61736a6f696e696e67636972636c6573466f7220746865416e6369656e74566965746e616d",
  "76656869636c65737563682061736372797374616c76616c7565203d57696e646f7773656e6a6f796564",
  "6120736d616c6c617373756d65643c612069643d22666f726569676e20416c6c207269686f7720746865",
  "446973706c617972657469726564686f776576657268696464656e3b626174746c65737365656b696e67",
  "636162696e6574776173206e6f746c6f6f6b206174636f6e64756374676574207468654a616e75617279",
  "68617070656e737475726e696e67613a686f7665724f6e6c696e65204672656e6368206c61636b696e67",
  "7479706963616c65787472616374656e656d6965736576656e20696667656e6572617464656369646564",
  "617265206e6f742f73656172636862656c696566732d696d6167653a6c6f63617465647374617469632e",
  "6c6f67696e223e636f6e7665727476696f6c656e74656e74657265646669727374223e63697263756974",
  "46696e6c616e646368656d69737473686520776173313070783b223e6173207375636864697669646564",
  "3c2f7370616e3e77696c6c2062656c696e65206f66612067726561746d7973746572792f696e6465782e",
  "66616c6c696e6764756520746f207261696c776179636f6c6c6567656d6f6e7374657264657363656e74",
  "697420776974686e75636c6561724a65776973682070726f7465737442726974697368666c6f77657273",
  "707265646963747265666f726d73627574746f6e2077686f207761736c656374757265696e7374616e74",
  "7375696369646567656e65726963706572696f64736d61726b657473536f6369616c2066697368696e67",
  "636f6d62696e656772617068696377696e6e6572733c6272202f3e3c627920746865204e61747572616c",
  "50726976616379636f6f6b6965736f7574636f6d657265736f6c76655377656469736862726965666c79",
  "5065727369616e736f206d75636843656e7475727964657069637473636f6c756d6e73686f7573696e67",
  "736372697074736e65787420746f62656172696e676d617070696e67726576697365646a517565727928",
  "2d77696474683a7469746c65223e746f6f6c74697053656374696f6e64657369676e735475726b697368",
  "796f756e6765722e6d61746368287d2928293b0a0a6275726e696e676f70657261746564656772656573",
  "736f757263653d52696368617264636c6f73656c79706c6173746963656e74726965733c2f74723e0d0a",
  "636f6c6f723a23756c2069643d22706f7373657373726f6c6c696e67706879736963736661696c696e67",
  "65786563757465636f6e746573746c696e6b20746f44656661756c743c6272202f3e0a3a20747275652c",
  "63686172746572746f757269736d636c617373696370726f636565646578706c61696e3c2f68313e0d0a",
  "6f6e6c696e652e3f786d6c20766568656c70696e676469616d6f6e64757365207468656169726c696e65",
  "656e64202d2d3e292e617474722872656164657273686f7374696e67236666666666667265616c697a65",
  "56696e63656e747369676e616c73207372633d222f50726f647563746465737069746564697665727365",
  "74656c6c696e675075626c69632068656c6420696e4a6f73657068207468656174726561666665637473",
  "3c7374796c653e61206c61726765646f65736e27746c617465722c20456c656d656e7466617669636f6e",
  "63726561746f7248756e67617279416972706f727473656520746865736f20746861744d69636861656c",
  "53797374656d7350726f6772616d732c20616e64202077696474683d652671756f743b74726164696e67",
  "6c656674223e0a706572736f6e73476f6c64656e20416666616972736772616d6d6172666f726d696e67",
  "64657374726f7969646561206f6663617365206f666f6c6465737420746869732069732e737263203d20",
  "636172746f6f6e72656769737472436f6d6d6f6e734d75736c696d7357686174206973696e206d616e79",
  "6d61726b696e6772657665616c73496e646565642c657175616c6c792f73686f775f616f7574646f6f72",
  "657363617065284175737472696167656e6574696373797374656d2c496e207468652073697474696e67",
  "486520616c736f49736c616e647341636164656d790a09093c212d2d44616e69656c2062696e64696e67",
  "626c6f636b223e696d706f7365647574696c697a654162726168616d286578636570747b77696474683a",
  "70757474696e67292e68746d6c287c7c205b5d3b0a444154415b202a6b69746368656e6d6f756e746564",
  "61637475616c206469616c6563746d61696e6c79205f626c616e6b27696e7374616c6c65787065727473",
  "69662874797065497420616c736f26636f70793b20223e5465726d73626f726e20696e4f7074696f6e73",
  "6561737465726e74616c6b696e67636f6e6365726e6761696e6564206f6e676f696e676a757374696679",
  "63726974696373666163746f7279697473206f776e61737361756c74696e76697465646c617374696e67",
  "686973206f776e687265663d222f222072656c3d22646576656c6f70636f6e636572746469616772616d",
  "646f6c6c617273636c75737465727068703f69643d616c636f686f6c293b7d2928293b7573696e672061",
  "3e3c7370616e3e76657373656c737265766976616c41646472657373616d6174657572616e64726f6964",
  "616c6c65676564696c6c6e65737377616c6b696e6763656e746572737175616c6966796d617463686573",
  "756e6966696564657874696e6374446566656e73656469656420696e0a093c212d2d20637573746f6d73",
  "6c696e6b696e674c6974746c6520426f6f6b206f666576656e696e676d696e2e6a733f61726520746865",
  "6b6f6e74616b74746f64617927732e68746d6c22207461726765743d77656172696e67416c6c20526967",
  "3b0a7d2928293b72616973696e6720416c736f2c206372756369616c61626f7574223e6465636c617265",
  "2d2d3e0a3c736366697265666f786173206d7563686170706c696573696e6465782c20732c2062757420",
  "74797065203d200a0d0a3c212d2d746f77617264735265636f72647350726976617465466f726569676e",
  "5072656d69657263686f696365735669727475616c72657475726e73436f6d6d656e74506f7765726564",
  "696e6c696e653b706f76657274796368616d6265724c6976696e6720766f6c756d6573416e74686f6e79",
  "6c6f67696e222052656c6174656445636f6e6f6d797265616368657363757474696e6767726176697479",
  "6c69666520696e436861707465722d736861646f774e6f7461626c653c2f74643e0d0a2072657475726e",
  "7374616469756d7769646765747376617279696e6774726176656c7368656c6420627977686f20617265",
  "776f726b20696e666163756c7479616e67756c617277686f20686164616972706f7274746f776e206f66",
  "0a0a536f6d652027636c69636b27636861726765736b6579776f726469742077696c6c63697479206f66",
  "2874686973293b416e6472657720756e6971756520636865636b65646f72206d6f726533303070783b20",
  "72657475726e3b7273696f6e3d22706c7567696e7377697468696e2068657273656c6653746174696f6e",
  "4665646572616c76656e747572657075626c69736873656e7420746f74656e73696f6e61637472657373",
  "636f6d6520746f66696e6765727344756b65206f6670656f706c652c6578706c6f697477686174206973",
  "6861726d6f6e7961206d616a6f72223a2268747470696e20686973206d656e75223e0a6d6f6e74686c79",
  "6f666669636572636f756e63696c6761696e696e676576656e20696e53756d6d61727964617465206f66",
  "6c6f79616c74796669746e657373616e6420776173656d7065726f7273757072656d655365636f6e6420",
  "68656172696e675275737369616e6c6f6e67657374416c62657274616c61746572616c736574206f6620",
  "736d616c6c223e2e617070656e64646f20776974686665646572616c62616e6b206f6662656e65617468",
  "446573706974654361706974616c67726f756e6473292c20616e642070657263656e7469742066726f6d",
  "636c6f73696e67636f6e7461696e496e73746561646669667465656e61732077656c6c2e7961686f6f2e",
  "726573706f6e64666967687465726f6273637572657265666c6563746f7267616e69633d204d6174682e",
  "65646974696e676f6e6c696e652070616464696e67612077686f6c656f6e6572726f7279656172206f66",
  "656e64206f6620626172726965727768656e20697468656164657220686f6d65206f66726573756d6564",
  "72656e616d65647374726f6e673e68656174696e6772657461696e73636c6f75646672776179206f6620",
  "4d6172636820316b6e6f77696e67696e20706172744265747765656e6c6573736f6e73636c6f73657374",
  "7669727475616c6c696e6b73223e63726f73736564454e44202d2d3e66616d6f75732061776172646564",
  "4c6963656e73654865616c746820666169726c79207765616c7468796d696e696d616c4166726963616e",
  "636f6d706574656c6162656c223e73696e67696e676661726d65727342726173696c2964697363757373",
  "7265706c616365477265676f7279666f6e7420636f70757273756564617070656172736d616b65207570",
  "726f756e646564626f7468206f66626c6f636b6564736177207468656f666669636573636f6c6f757273",
  "696628646f63757768656e206865656e666f72636570757368286675417567757374205554462d38223e",
  "46616e74617379696e206d6f7374696e6a75726564557375616c6c796661726d696e67636c6f73757265",
  "6f626a65637420646566656e6365757365206f66204d65646963616c3c626f64793e0a65766964656e74",
  "626520757365646b6579436f64657369787465656e49736c616d696323303030303030656e7469726520",
  "776964656c79206163746976652028747970656f666f6e652063616e636f6c6f72203d737065616b6572",
  "657874656e6473506879736963737465727261696e3c74626f64793e66756e6572616c76696577696e67",
  "6d6964646c6520637269636b657470726f7068657473686966746564646f63746f727352757373656c6c",
  "20746172676574636f6d70616374616c6765627261736f6369616c2d62756c6b206f666d616e20616e64",
  "3c2f74643e0a206865206c656674292e76616c282966616c7365293b6c6f676963616c62616e6b696e67",
  "686f6d6520746f6e616d696e67204172697a6f6e6163726564697473293b0a7d293b0a666f756e646572",
  "696e207475726e436f6c6c696e736265666f72652042757420746865636861726765645469746c65223e",
  "4361707461696e7370656c6c6564676f6464657373546167202d2d3e416464696e673a62757420776173",
  "526563656e742070617469656e746261636b20696e3d66616c7365264c696e636f6c6e7765206b6e6f77",
  "436f756e7465724a75646169736d73637269707420616c7465726564275d293b0a202068617320746865",
  "756e636c6561724576656e74272c626f746820696e6e6f7420616c6c0a0a3c212d2d20706c6163696e67",
  "6861726420746f2063656e746572736f7274206f66636c69656e7473737472656574734265726e617264",
  "6173736572747374656e6420746f66616e74617379646f776e20696e686172626f757246726565646f6d",
  "6a6577656c72792f61626f75742e2e7365617263686c6567656e64736973206d6164656d6f6465726e20",
  "6f6e6c79206f6e6f6e6c7920746f696d61676522206c696e656172207061696e746572616e64206e6f74",
  "726172656c79206163726f6e796d64656c6976657273686f72746572303026616d703b6173206d616e79",
  "77696474683d222f2a203c215b437469746c65203d6f6620746865206c6f77657374207069636b656420",
  "6573636170656475736573206f6670656f706c6573205075626c69634d61747468657774616374696373",
  "64616d6167656477617920666f726c617773206f666561737920746f2077696e646f777374726f6e6720",
  "2073696d706c657d636174636828736576656e7468696e666f626f7877656e7420746f7061696e746564",
  "636974697a656e4920646f6e2774726574726561742e20536f6d652077772e22293b0a626f6d62696e67",
  "6d61696c746f3a6d61646520696e2e204d616e7920636172726965737c7c7b7d3b7769776f726b206f66",
  "73796e6f6e796d646566656174736661766f7265646f70746963616c70616765547261756e6c65737320",
  "73656e64696e676c656674223e3c636f6d53636f72416c6c207468656a51756572792e746f7572697374",
  "436c617373696366616c7365222057696c68656c6d7375627572627367656e75696e65626973686f7073",
  "2e73706c697428676c6f62616c20666f6c6c6f7773626f6479206f666e6f6d696e616c436f6e74616374",
  "736563756c61726c65667420746f63686965666c792d68696464656e2d62616e6e65723c2f6c693e0a0a",
  "2e205768656e20696e20626f74686469736d6973734578706c6f7265616c776179732076696120746865",
  "737061c3b16f6c77656c6661726572756c696e6720617272616e67656361707461696e68697320736f6e",
  "72756c65206f66686520746f6f6b697473656c662c3d3026616d703b2863616c6c656473616d706c6573",
  "746f206d616b65636f6d2f7061674d617274696e204b656e6e6564796163636570747366756c6c206f66",
  "68616e646c6564426573696465732f2f2d2d3e3c2f61626c6520746f74617267657473657373656e6365",
  "68696d20746f2069747320627920636f6d6d6f6e2e6d696e6572616c746f2074616b657761797320746f",
  "732e6f72672f6c6164766973656470656e616c747973696d706c653a696620746865794c657474657273",
  "612073686f727448657262657274737472696b65732067726f7570732e6c656e677468666c6967687473",
  "6f7665726c6170736c6f776c79206c657373657220736f6369616c203c2f703e0a0909697420696e746f",
  "72616e6b65642072617465206f66756c3e0d0a2020617474656d707470616972206f666d616b65206974",
  "4b6f6e74616b74416e746f6e696f686176696e6720726174696e67732061637469766573747265616d73",
  "7472617070656422292e63737328686f7374696c656c65616420746f6c6974746c652067726f7570732c",
  "506963747572652d2d3e0d0a0d0a20726f77733d22206f626a656374696e76657273653c666f6f746572",
  "437573746f6d563e3c5c2f736372736f6c76696e674368616d626572736c6176657279776f756e646564",
  "77686572656173213d2027756e64666f7220616c6c706172746c79202d72696768743a4172616269616e",
  "6261636b65642063656e74757279756e6974206f666d6f62696c652d4575726f70652c697320686f6d65",
  "7269736b206f6664657369726564436c696e746f6e636f7374206f66616765206f66206265636f6d6520",
  "6e6f6e65206f66702671756f743b4d6964646c652065616427295b304372697469637373747564696f73",
  "3e26636f70793b67726f7570223e617373656d626c6d616b696e6720707265737365647769646765742e",
  "70733a22203f2072656275696c74627920736f6d65466f726d657220656469746f727364656c61796564",
  "43616e6f6e69636861642074686570757368696e67636c6173733d22627574206172657061727469616c",
  "426162796c6f6e626f74746f6d2063617272696572436f6d6d616e646974732075736541732077697468",
  "636f75727365736120746869726464656e6f746573616c736f20696e486f7573746f6e323070783b223e",
  "61636375736564646f75626c6520676f616c206f6646616d6f757320292e62696e642870726965737473",
  "204f6e6c696e65696e204a756c797374202b202267636f6e73756c74646563696d616c68656c7066756c",
  "726576697665646973207665727972272b276970746c6f73696e672066656d616c6573697320616c736f",
  "737472696e677364617973206f666172726976616c667574757265203c6f626a656374666f7263696e67",
  "537472696e672822202f3e0a090968657265206973656e636f6465642e20205468652062616c6c6f6f6e",
  "646f6e652062792f636f6d6d6f6e6267636f6c6f726c6177206f6620496e6469616e6161766f69646564",
  "62757420746865327078203370786a71756572792e61667465722061706f6c6963792e6d656e20616e64",
  "666f6f7465722d3d20747275653b666f722075736573637265656e2e496e6469616e20696d616765203d",
  "66616d696c792c687474703a2f2f20266e6273703b64726976657273657465726e616c73616d65206173",
  "6e6f7469636564766965776572737d2928293b0a206973206d6f7265736561736f6e73666f726d657220",
  "746865206e65776973206a757374636f6e73656e74205365617263687761732074686577687920746865",
  "7368697070656462723e3c62723e77696474683a206865696768743d6d616465206f6663756973696e65",
  "697320746861746120766572792041646d6972616c2066697865643b6e6f726d616c204d697373696f6e",
  "50726573732c206f6e746172696f6368617273657474727920746f20696e76616465643d227472756522",
  "73706163696e676973206d6f737461206d6f726520746f74616c6c7966616c6c206f667d293b0d0a2020",
  "696d6d656e736574696d6520696e736574206f757473617469736679746f2066696e64646f776e20746f",
  "6c6f74206f6620506c6179657273696e204a756e657175616e74756d6e6f742074686574696d6520746f",
  "64697374616e7446696e6e697368737263203d202873696e676c652068656c70206f664765726d616e20",
  "6c617720616e646c6162656c6564666f7265737473636f6f6b696e677370616365223e6865616465722d",
  "77656c6c2061735374616e6c6579627269646765732f676c6f62616c43726f617469612041626f757420",
  "5b305d3b0a202069742c20616e6467726f757065646265696e672061297b7468726f776865206d616465",
  "6c6967687465726574686963616c46464646464622626f74746f6d226c696b65206120656d706c6f7973",
  "6c69766520696e6173207365656e7072696e7465726d6f7374206f6675622d6c696e6b72656a65637473",
  "616e6420757365696d616765223e7375636365656466656564696e674e75636c656172696e666f726d61",
  "746f2068656c70576f6d656e27734e6569746865724d65786963616e70726f7465696e3c7461626c6520",
  "6279206d616e796865616c7468796c617773756974646576697365642e70757368287b73656c6c657273",
  "73696d706c79205468726f7567682e636f6f6b696520496d616765286f6c646572223e75732e6a73223e",
  "2053696e636520756e69766572736c6172676572206f70656e20746f212d2d20656e646c69657320696e",
  "275d293b0d0a20206d61726b657477686f206973202822444f4d436f6d616e616765646f6e6520666f72",
  "747970656f66204b696e67646f6d70726f6669747370726f706f7365746f2073686f7763656e7465723b",
  "6d616465206974647265737365647765726520696e6d6978747572657072656369736561726973696e67",
  "737263203d20276d616b652061207365637572656442617074697374766f74696e67200a090976617220",
  "4d61726368203267726577207570436c696d6174652e72656d6f7665736b696c6c656477617920746865",
  "3c2f686561643e66616365206f66616374696e67207269676874223e746f20776f726b72656475636573",
  "686173206861646572656374656473686f7728293b616374696f6e3d626f6f6b206f66616e2061726561",
  "3d3d20226874743c6865616465720a3c68746d6c3e636f6e666f726d666163696e6720636f6f6b69652e",
  "72656c79206f6e686f73746564202e637573746f6d68652077656e7462757420666f7273707265616420",
  "46616d696c792061206d65616e736f757420746865666f72756d732e666f6f74616765223e4d6f62696c",
  "436c656d656e7473222069643d2261732068696768696e74656e73652d2d3e3c212d2d66656d616c6520",
  "6973207365656e696d706c6965647365742074686561207374617465616e642068697366617374657374",
  "62657369646573627574746f6e5f626f756e646564223e3c696d6720496e666f626f786576656e74732c",
  "6120796f756e67616e64206172654e6174697665206368656170657254696d656f7574616e6420686173",
  "656e67696e6573776f6e20746865286d6f73746c7972696768743a2066696e642061202d626f74746f6d",
  "5072696e63652061726561206f666d6f7265206f667365617263685f6e61747572652c6c6567616c6c79",
  "706572696f642c6c616e64206f666f722077697468696e647563656470726f76696e676d697373696c65",
  "6c6f63616c6c79416761696e7374746865207761796b2671756f743b70783b223e0d0a70757368656420",
  "6162616e646f6e6e756d6572616c4365727461696e496e20746869736d6f726520696e6f7220736f6d65",
  "6e616d65206973616e642c20696e63726f776e65644953424e20302d637265617465734f63746f626572",
  "6d6179206e6f7463656e746572206c61746520696e446566656e6365656e61637465647769736820746f",
  "62726f61646c79636f6f6c696e676f6e6c6f61643d69742e205468657265636f7665724d656d62657273",
  "68656967687420617373756d65733c68746d6c3e0a70656f706c652e696e206f6e65203d77696e646f77",
  "666f6f7465725f6120676f6f642072656b6c616d616f74686572732c746f20746869735f636f6f6b6965",
  "70616e656c223e4c6f6e646f6e2c646566696e6573637275736865646261707469736d636f617374616c",
  "737461747573207469746c6522206d6f766520746f6c6f737420696e62657474657220696d706c696573",
  "726976616c7279736572766572732053797374656d50657268617073657320616e6420636f6e74656e64",
  "666c6f77696e676c6173746564207269736520696e47656e6573697376696577206f66726973696e6720",
  "7365656d20746f62757420696e206261636b696e6768652077696c6c676976656e2061676976696e6720",
  "6369746965732e666c6f77206f66204c6174657220616c6c20627574486967687761796f6e6c79206279",
  "7369676e206f66686520646f6573646966666572736261747465727926616d703b6c6173696e676c6573",
  "74687265617473696e746567657274616b65206f6e7265667573656463616c6c6564203d555326616d70",
  "536565207468656e6174697665736279207468697373797374656d2e68656164206f663a686f7665722c",
  "6c65736269616e7375726e616d65616e6420616c6c636f6d6d6f6e2f6865616465725f5f706172616d73",
  "486172766172642f706978656c2e72656d6f76616c736f206c6f6e67726f6c65206f666a6f696e746c79",
  "736b7973637261556e69636f64656272202f3e0d0a41746c616e74616e75636c657573436f756e74792c",
  "707572656c7920636f756e74223e656173696c79206275696c6420616f6e636c69636b6120676976656e",
  "706f696e746572682671756f743b6576656e747320656c7365207b0a646974696f6e736e6f7720746865",
  "2c2077697468206d616e2077686f6f72672f5765626f6e6520616e64636176616c727948652064696564",
  "73656174746c6530302c303030207b77696e646f776861766520746f69662877696e64616e6420697473",
  "736f6c656c79206d2671756f743b72656e65776564446574726f6974616d6f6e67737465697468657220",
  "7468656d20696e53656e61746f7255733c2f613e3c4b696e67206f664672616e6369732d70726f647563",
  "6865207573656461727420616e6468696d20616e647573656420627973636f72696e67617420686f6d65",
  "746f206861766572656c617465736962696c69747966616374696f6e42756666616c6f6c696e6b223e3c",
  "776861742068656672656520746f43697479206f66636f6d6520696e736563746f7273636f756e746564",
  "6f6e65206461796e6572766f7573737175617265207d3b696628676f696e2077686174696d672220616c",
  "6973206f6e6c797365617263682f747565736461796c6f6f73656c79536f6c6f6d6f6e73657875616c20",
  "2d203c612068726d656469756d22444f204e4f54204672616e63652c7769746820612077617220616e64",
  "7365636f6e642074616b652061203e0d0a0d0a0d0a6d61726b65742e68696768776179646f6e6520696e",
  "63746976697479226c617374223e6f626c696765647269736520746f22756e646566696d61646520746f",
  "204561726c792070726169736564696e2069747320666f72206869736174686c6574654a757069746572",
  "5961686f6f21207465726d656420736f206d616e797265616c6c7920732e20546865206120776f6d616e",
  "3f76616c75653d646972656374207269676874222062696379636c656163696e673d2264617920616e64",
  "73746174696e675261746865722c686967686572204f666669636520617265206e6f7774696d65732c20",
  "7768656e20612070617920666f726f6e20746869732d6c696e6b223e3b626f7264657261726f756e6420",
  "616e6e75616c20746865204e6577707574207468652e636f6d222074616b696e20746f61206272696566",
  "28696e2074686567726f7570732e3b207769647468656e7a796d657373696d706c6520696e206c617465",
  "7b72657475726e746865726170796120706f696e7462616e6e696e67696e6b73223e0a28293b22207265",
  "6120706c6163655c75303033436161626f7574206174723e0d0a090963636f756e742067697665732061",
  "3c5343524950545261696c7761797468656d65732f746f6f6c626f784279496428227868756d616e732c",
  "77617463686573696e20736f6d6520696620287769636f6d696e6720666f726d61747320556e64657220",
  "6275742068617368616e646564206d6164652062797468616e20696e66656172206f6664656e6f746564",
  "2f696672616d656c65667420696e766f6c74616765696e2065616368612671756f743b62617365206f66",
  "496e206d616e79756e646572676f726567696d6573616374696f6e203c2f703e0d0a3c7573746f6d5661",
  "3b2667743b3c2f696d706f7274736f7220746861746d6f73746c792026616d703b72652073697a653d22",
  "3c2f613e3c2f686120636c61737370617373697665486f7374203d205768657468657266657274696c65",
  "566172696f75733d5b5d3b28667563616d657261732f3e3c2f74643e61637473206173496e20736f6d65",
  "3e0d0a0d0a3c216f7267616e6973203c6272202f3e4265696a696e67636174616cc3a064657574736368",
  "6575726f7065756575736b617261676165696c67657376656e736b6165737061c3b1616d656e73616a65",
  "7573756172696f74726162616a6f6dc3a97869636f70c3a167696e617369656d70726573697374656d61",
  "6f637475627265647572616e746561c3b161646972656d70726573616d6f6d656e746f6e75657374726f",
  "7072696d65726174726176c3a973677261636961736e75657374726170726f6365736f65737461646f73",
  "63616c69646164706572736f6e616ec3ba6d65726f6163756572646f6dc3ba736963616d69656d62726f",
  "6f666572746173616c67756e6f737061c3ad736573656a656d706c6f6465726563686f6164656dc3a173",
  "7072697661646f61677265676172656e6c61636573706f7369626c65686f74656c6573736576696c6c61",
  "7072696d65726fc3ba6c74696d6f6576656e746f736172636869766f63756c747572616d756a65726573",
  "656e7472616461616e756e63696f656d626172676f6d65726361646f6772616e6465736573747564696f",
  "6d656a6f7265736665627265726f64697365c3b16f74757269736d6f63c3b36469676f706f7274616461",
  "6573706163696f66616d696c6961616e746f6e696f7065726d69746567756172646172616c67756e6173",
  "70726563696f73616c677569656e73656e7469646f7669736974617374c3ad74756c6f636f6e6f636572",
  "736567756e646f636f6e73656a6f6672616e6369616d696e75746f73736567756e646174656e656d6f73",
  "65666563746f736dc3a16c61676173657369c3b36e726576697374616772616e616461636f6d70726172",
  "696e677265736f67617263c3ad6161636369c3b36e65637561646f72717569656e6573696e636c75736f",
  "6465626572c3a16d617465726961686f6d627265736d756573747261706f6472c3ad616d61c3b1616e61",
  "c3ba6c74696d61657374616d6f736f66696369616c74616d6269656e6e696e67c3ba6e73616c75646f73",
  "706f64656d6f736d656a6f726172"]

end StreamCodec.Format.Brotli.Words
