/-!
# Dictionary words of eight to ten bytes

The words of each length stand one after another, in hexadecimal digits.
-/
namespace StreamCodec.Format.Brotli.Words

def eight : List String := [
  "706f736974696f6e627573696e657373686f6d657061676573656375726974796c616e6775616765",
  "7374616e6461726463616d706169676e666561747572657363617465676f727965787465726e616c",
  "6368696c6472656e7265736572766564726573656172636865786368616e67656661766f72697465",
  "74656d706c6174656d696c6974617279696e64757374727973657276696365736d6174657269616c",
  "70726f64756374737a2d696e6465783a636f6d6d656e7473736f667477617265636f6d706c657465",
  "63616c656e646172706c6174666f726d61727469636c657372657175697265646d6f76656d656e74",
  "7175657374696f6e6275696c64696e67706f6c6974696373706f737369626c6572656c6967696f6e",
  "706879736963616c666565646261636b7265676973746572706963747572657364697361626c6564",
  "70726f746f636f6c61756469656e636573657474696e67736163746976697479656c656d656e7473",
  "6c6561726e696e67616e797468696e67616273747261637470726f67726573736f76657276696577",
  "6d6167617a696e6565636f6e6f6d6963747261696e696e677072657373757265766172696f757320",
  "3c7374726f6e673e70726f706572747973686f7070696e67746f676574686572616476616e636564",
  "6265686176696f72646f776e6c6f61646665617475726564666f6f7462616c6c73656c6563746564",
  "4c616e677561676564697374616e636572656d656d626572747261636b696e6770617373776f7264",
  "6d6f64696669656473747564656e74736469726563746c796669676874696e676e6f72746865726e",
  "6461746162617365666573746976616c627265616b696e676c6f636174696f6e696e7465726e6574",
  "64726f70646f776e707261637469636565766964656e636566756e6374696f6e6d61727269616765",
  "726573706f6e736570726f626c656d736e6567617469766570726f6772616d73616e616c79736973",
  "72656c656173656462616e6e6572223e7075726368617365706f6c6963696573726567696f6e616c",
  "6372656174697665617267756d656e74626f6f6b6d61726b72656665727265726368656d6963616c",
  "6469766973696f6e63616c6c6261636b736570617261746570726f6a65637473636f6e666c696374",
  "6861726477617265696e74657265737464656c69766572796d6f756e7461696e6f627461696e6564",
  "3d2066616c73653b666f72287661722061636365707465646361706163697479636f6d7075746572",
  "6964656e746974796169726372616674656d706c6f79656470726f706f736564646f6d6573746963",
  "696e636c7564657370726f7669646564686f73706974616c766572746963616c636f6c6c61707365",
  "617070726f616368706172746e6572736c6f676f223e3c616461756768746572617574686f722220",
  "63756c747572616c66616d696c6965732f696d616765732f617373656d626c79706f77657266756c",
  "7465616368696e6766696e69736865646469737472696374637269746963616c6367692d62696e2f",
  "707572706f7365737265717569726573656c656374696f6e6265636f6d696e6770726f7669646573",
  "61636164656d6963657865726369736561637475616c6c796d65646963696e65636f6e7374616e74",
  "6163636964656e744d6167617a696e65646f63756d656e747374617274696e67626f74746f6d223e",
  "6f627365727665643a202671756f743b657874656e64656470726576696f7573536f667477617265",
  "637573746f6d65726465636973696f6e737472656e67746864657461696c6564736c696768746c79",
  "706c616e6e696e67746578746172656163757272656e637965766572796f6e657374726169676874",
  "7472616e73666572706f73697469766570726f647563656468657269746167657368697070696e67",
  "6162736f6c757465726563656976656472656c6576616e74627574746f6e222076696f6c656e6365",
  "616e79776865726562656e65666974736c61756e63686564726563656e746c79616c6c69616e6365",
  "666f6c6c6f7765646d756c7469706c6562756c6c6574696e696e636c756465646f63637572726564",
  "696e7465726e616c242874686973292e72657075626c69633e3c74723e3c7464636f6e6772657373",
  "7265636f72646564756c74696d617465736f6c7574696f6e3c756c2069643d22646973636f766572",
  "486f6d653c2f613e77656273697465736e6574776f726b73616c74686f756768656e746972656c79",
  "6d656d6f7269616c6d65737361676573636f6e74696e7565616374697665223e736f6d6577686174",
  "766963746f7269615765737465726e20207469746c653d224c6f636174696f6e636f6e7472616374",
  "76697369746f7273446f776e6c6f6164776974686f7574207269676874223e0a6d65617375726573",
  "7769647468203d207661726961626c65696e766f6c76656476697267696e69616e6f726d616c6c79",
  "68617070656e65646163636f756e74737374616e64696e676e6174696f6e616c5265676973746572",
  "7072657061726564636f6e74726f6c73616363757261746562697274686461797374726174656779",
  "6f6666696369616c67726170686963736372696d696e616c706f737369626c79636f6e73756d6572",
  "506572736f6e616c737065616b696e6776616c696461746561636869657665642e6a706722202f3e",
  "6d616368696e65733c2f68323e0a20206b6579776f726473667269656e646c7962726f7468657273",
  "636f6d62696e65646f726967696e616c636f6d706f73656465787065637465646164657175617465",
  "70616b697374616e666f6c6c6f77222076616c7561626c653c2f6c6162656c3e72656c6174697665",
  "6272696e67696e67696e637265617365676f7665726e6f72706c7567696e732f4c697374206f6620",
  "486561646572223e22206e616d653d2220282671756f743b67726164756174653c2f686561643e0a",
  "636f6d6d657263656d616c61797369616469726563746f726d61696e7461696e3b6865696768743a",
  "7363686564756c656368616e67696e676261636b20746f20636174686f6c69637061747465726e73",
  "636f6c6f723a20236772656174657374737570706c69657372656c6961626c653c2f756c3e0a0909",
  "3c73656c65637420636974697a656e73636c6f7468696e677761746368696e673c6c692069643d22",
  "73706563696669636361727279696e6773656e74656e63653c63656e7465723e636f6e7472617374",
  "7468696e6b696e676361746368286529736f75746865726e4d69636861656c206d65726368616e74",
  "6361726f7573656c70616464696e673a696e746572696f722e73706c697428226c697a6174696f6e",
  "4f63746f62657220297b72657475726e696d70726f7665642d2d2667743b0a0a636f766572616765",
  "63686169726d616e2e706e6722202f3e7375626a6563747352696368617264207768617465766572",
  "70726f6261626c797265636f766572796261736562616c6c6a7564676d656e74636f6e6e6563742e",
  "2e63737322202f3e20776562736974657265706f7274656464656661756c74222f3e3c2f613e0d0a",
  "656c65637472696373636f746c616e646372656174696f6e7175616e746974792e204953424e2030",
  "646964206e6f7420696e7374616e63652d7365617263682d22206c616e673d22737065616b657273",
  "436f6d7075746572636f6e7461696e7361726368697665736d696e69737465727265616374696f6e",
  "646973636f756e744974616c69616e6f63726974657269617374726f6e676c793a2027687474703a",
  "2773637269707427636f766572696e676f66666572696e6761707065617265644272697469736820",
  "6964656e7469667946616365626f6f6b6e756d65726f757376656869636c6573636f6e6365726e73",
  "416d65726963616e68616e646c696e676469762069643d2257696c6c69616d2070726f7669646572",
  "5f636f6e74656e74616363757261637973656374696f6e20616e646572736f6e666c657869626c65",
  "43617465676f72796c617772656e63653c7363726970743e6c61796f75743d22617070726f766564",
  "206d6178696d756d686561646572223e3c2f7461626c653e536572766963657368616d696c746f6e",
  "63757272656e742063616e616469616e6368616e6e656c732f7468656d65732f2f61727469636c65",
  "6f7074696f6e616c706f72747567616c76616c75653d2222696e74657276616c776972656c657373",
  "656e7469746c65646167656e6369657353656172636822206d6561737572656474686f7573616e64",
  "7370656e64696e672668656c6c69703b6e65772044617465222073697a653d22706167654e616d65",
  "6d6964646c65222022202f3e3c2f613e68696464656e223e73657175656e6365706572736f6e616c",
  "6f766572666c6f776f70696e696f6e73696c6c696e6f69736c696e6b73223e0a093c7469746c653e",
  "76657273696f6e7373617475726461797465726d696e616c6974656d70726f70656e67696e656572",
  "73656374696f6e7364657369676e657270726f706f73616c3d2266616c73652245737061c3b16f6c",
  "72656c65617365737375626d6974222065722671756f743b6164646974696f6e73796d70746f6d73",
  "6f7269656e7465647265736f757263657269676874223e3c706c65617375726573746174696f6e73",
  "686973746f72792e6c656176696e672020626f726465723d636f6e74656e747363656e746572223e",
  "2e0a0a536f6d652064697265637465647375697461626c6562756c67617269612e73686f7728293b",
  "64657369676e656447656e6572616c20636f6e63657074734578616d706c657377696c6c69616d73",
  "4f726967696e616c223e3c7370616e3e736561726368223e6f70657261746f727265717565737473",
  "61202671756f743b616c6c6f77696e67446f63756d656e747265766973696f6e2e200a0a54686520",
  "796f757273656c66436f6e74616374206d6963686967616e456e676c69736820636f6c756d626961",
  "7072696f726974797072696e74696e676472696e6b696e67666163696c69747972657475726e6564",
  "436f6e74656e74206f666669636572735275737369616e2067656e65726174652d383835392d3122",
  "696e64696361746566616d696c696172207175616c6974796d617267696e3a3020636f6e74656e74",
  "76696577706f7274636f6e74616374732d7469746c65223e706f727461626c652e6c656e67746820",
  "656c696769626c65696e766f6c76657361746c616e7469636f6e6c6f61643d2264656661756c742e",
  "737570706c6965647061796d656e7473676c6f73736172790a0a41667465722067756964616e6365",
  "3c2f74643e3c7464656e636f64696e676d6964646c65223e63616d6520746f20646973706c617973",
  "73636f74746973686a6f6e617468616e6d616a6f72697479776964676574732e636c696e6963616c",
  "746861696c616e6474656163686572733c686561643e0a096166666563746564737570706f727473",
  "706f696e7465723b746f537472696e673c2f736d616c6c3e6f6b6c61686f6d6177696c6c20626520",
  "696e766573746f72302220616c743d22686f6c69646179735265736f757263656c6963656e736564",
  "20287768696368202e20416674657220636f6e73696465727669736974696e676578706c6f726572",
  "7072696d617279207365617263682220616e64726f696422717569636b6c79206d656574696e6773",
  "657374696d6174653b72657475726e203b636f6c6f723a23206865696768743d617070726f76616c",
  "2c202671756f743b20636865636b65642e6d696e2e6a73226d61676e657469633e3c2f613e3c2f68",
  "666f7265636173742e205768696c652074687572736461796476657274697365266561637574653b",
  "686173436c6173736576616c756174656f72646572696e676578697374696e6770617469656e7473",
  "204f6e6c696e6520636f6c6f7261646f4f7074696f6e732263616d7062656c6c3c212d2d20656e64",
  "3c2f7370616e3e3c3c6272202f3e0d0a5f706f707570737c736369656e6365732c2671756f743b20",
  "7175616c6974792057696e646f77732061737369676e65646865696768743a203c6220636c617373",
  "6c652671756f743b2076616c75653d2220436f6d70616e796578616d706c65733c696672616d6520",
  "62656c696576657370726573656e74736d61727368616c6c70617274206f662070726f7065726c79",
  "292e0a0a546865207461786f6e6f6d796d756368206f66203c2f7370616e3e0a2220646174612d73",
  "7274756775c3aa737363726f6c6c546f2070726f6a6563743c686561643e0d0a6174746f726e6579",
  "656d70686173697373706f6e736f727366616e6379626f78776f726c6427732077696c646c696665",
  "636865636b65643d73657373696f6e7370726f6772616d6d70783b666f6e742d2050726f6a656374",
  "6a6f75726e616c7362656c69657665647661636174696f6e74686f6d70736f6e6c69676874696e67",
  "616e6420746865207370656369616c20626f726465723d30636865636b696e673c2f74626f64793e",
  "3c627574746f6e20436f6d706c657465636c6561726669780a3c686561643e0a61727469636c6520",
  "3c73656374696f6e66696e64696e6773726f6c6520696e20706f70756c617220204f63746f626572",
  "77656273697465206578706f737572657573656420746f20206368616e6765736f70657261746564",
  "636c69636b696e67656e746572696e67636f6d6d616e6473696e666f726d6564206e756d62657273",
  "20203c2f6469763e6372656174696e676f6e5375626d69746d6172796c616e64636f6c6c65676573",
  "616e616c797469636c697374696e6773636f6e746163742e6c6f67676564496e61647669736f7279",
  "7369626c696e6773636f6e74656e7422732671756f743b29732e2054686973207061636b61676573",
  "636865636b626f787375676765737473707265676e616e74746f6d6f72726f7773706163696e673d",
  "69636f6e2e706e676a6170616e657365636f646562617365627574746f6e223e67616d626c696e67",
  "73756368206173202c207768696c65203c2f7370616e3e206d6973736f75726973706f7274696e67",
  "746f703a317078202e3c2f7370616e3e74656e73696f6e7377696474683d22326c617a796c6f6164",
  "6e6f76656d6265727573656420696e206865696768743d226372697074223e0a266e6273703b3c2f",
  "3c74723e3c7464206865696768743a322f70726f64756374636f756e74727920696e636c75646520",
  "666f6f7465722220266c743b212d2d207469746c65223e3c2f6a71756572792e3c2f666f726d3e0a",
  "28e7ae80e4bd932928e7b981e9ab94296872766174736b696974616c69616e6f726f6dc3a26ec483",
  "74c3bc726bc3a765d8a7d8b1d8afd98874616d6269c3a96e6e6f7469636961736d656e73616a6573",
  "706572736f6e61736465726563686f736e6163696f6e616c736572766963696f636f6e746163746f",
  "7573756172696f7370726f6772616d61676f626965726e6f656d707265736173616e756e63696f73",
  "76616c656e636961636f6c6f6d6269616465737075c3a9736465706f7274657370726f796563746f",
  "70726f647563746f70c3ba626c69636f6e6f736f74726f73686973746f72696170726573656e7465",
  "6d696c6c6f6e65736d656469616e746570726567756e7461616e746572696f727265637572736f73",
  "70726f626c656d6173616e746961676f6e75657374726f736f70696e69c3b36e696d7072696d6972",
  "6d69656e74726173616dc3a97269636176656e6465646f72736f636965646164726573706563746f",
  "7265616c697a6172726567697374726f70616c6162726173696e746572c3a973656e746f6e636573",
  "657370656369616c6d69656d62726f737265616c6964616463c3b372646f62617a617261676f7a61",
  "70c3a167696e6173736f6369616c6573626c6f71756561726765737469c3b36e616c7175696c6572",
  "73697374656d61736369656e63696173636f6d706c65746f7665727369c3b36e636f6d706c657461",
  "6573747564696f7370c3ba626c6963616f626a657469766f616c6963616e74656275736361646f72",
  "63616e7469646164656e747261646173616363696f6e65736172636869766f737375706572696f72",
  "6d61796f72c3ad61616c656d616e696166756e6369c3b36ec3ba6c74696d6f7368616369656e646f",
  "617175656c6c6f736564696369c3b36e6665726e616e646f616d6269656e746566616365626f6f6b",
  "6e75657374726173636c69656e74657370726f6365736f7362617374616e746570726573656e7461",
  "7265706f72746172636f6e677265736f7075626c69636172636f6d657263696f636f6e747261746f",
  "6ac3b376656e6573646973747269746f74c3a9636e696361636f6e6a756e746f656e657267c3ad61",
  "74726162616a6172617374757269617372656369656e74657574696c697a6172626f6c6574c3ad6e",
  "73616c7661646f72636f72726563746174726162616a6f737072696d65726f736e65676f63696f73",
  "6c69626572746164646574616c6c657370616e74616c6c617072c3b378696d6f616c6d6572c3ad61",
  "616e696d616c6573717569c3a96e6573636f72617ac3b36e7365636369c3b36e62757363616e646f",
  "6f7063696f6e65736578746572696f72636f6e636570746f746f646176c3ad6167616c6572c3ad61",
  "65736372696269726d65646963696e616c6963656e636961636f6e73756c74616173706563746f73",
  "6372c3ad7469636164c3b36c617265736a757374696369616465626572c3a16e706572c3ad6f646f",
  "6e656365736974616d616e74656e65727065717565c3b16f726563696269646174726962756e616c",
  "74656e657269666563616e6369c3b36e63616e617269617364657363617267616469766572736f73",
  "6d616c6c6f726361726571756965726574c3a9636e69636f6465626572c3ad6176697669656e6461",
  "66696e616e7a61736164656c616e746566756e63696f6e61636f6e73656a6f73646966c3ad63696c",
  "6369756461646573616e7469677561736176616e7a61646174c3a9726d696e6f756e696461646573",
  "73c3a16e6368657a63616d7061c3b161736f66746f6e69637265766973746173636f6e7469656e65",
  "736563746f7265736d6f6d656e746f73666163756c7461646372c3a96469746f6469766572736173",
  "737570756573746f666163746f726573736567756e646f737065717565c3b161d0b3d0bed0b4d0b0",
  "d0b5d181d0bbd0b8d0b5d181d182d18cd0b1d18bd0bbd0bed0b1d18bd182d18cd18dd182d0bed0bc",
  "d095d181d0bbd0b8d182d0bed0b3d0bed0bcd0b5d0bdd18fd0b2d181d0b5d185d18dd182d0bed0b9",
  "d0b4d0b0d0b6d0b5d0b1d18bd0bbd0b8d0b3d0bed0b4d183d0b4d0b5d0bdd18cd18dd182d0bed182",
  "d0b1d18bd0bbd0b0d181d0b5d0b1d18fd0bed0b4d0b8d0bdd181d0b5d0b1d0b5d0bdd0b0d0b4d0be",
  "d181d0b0d0b9d182d184d0bed182d0bed0bdd0b5d0b3d0bed181d0b2d0bed0b8d181d0b2d0bed0b9",
  "d0b8d0b3d180d18bd182d0bed0b6d0b5d0b2d181d0b5d0bcd181d0b2d0bed18ed0bbd0b8d188d18c",
  "d18dd182d0b8d185d0bfd0bed0bad0b0d0b4d0bdd0b5d0b9d0b4d0bed0bcd0b0d0bcd0b8d180d0b0",
  "d0bbd0b8d0b1d0bed182d0b5d0bcd183d185d0bed182d18fd0b4d0b2d183d185d181d0b5d182d0b8",
  "d0bbd18ed0b4d0b8d0b4d0b5d0bbd0bed0bcd0b8d180d0b5d182d0b5d0b1d18fd181d0b2d0bed0b5",
  "d0b2d0b8d0b4d0b5d187d0b5d0b3d0bed18dd182d0b8d0bcd181d187d0b5d182d182d0b5d0bcd18b",
  "d186d0b5d0bdd18bd181d182d0b0d0bbd0b2d0b5d0b4d18cd182d0b5d0bcd0b5d0b2d0bed0b4d18b",
  "d182d0b5d0b1d0b5d0b2d18bd188d0b5d0bdd0b0d0bcd0b8d182d0b8d0bfd0b0d182d0bed0bcd183",
  "d0bfd180d0b0d0b2d0bbd0b8d186d0b0d0bed0b4d0bdd0b0d0b3d0bed0b4d18bd0b7d0bdd0b0d18e",
  "d0bcd0bed0b3d183d0b4d180d183d0b3d0b2d181d0b5d0b9d0b8d0b4d0b5d182d0bad0b8d0bdd0be",
  "d0bed0b4d0bdd0bed0b4d0b5d0bbd0b0d0b4d0b5d0bbd0b5d181d180d0bed0bad0b8d18ed0bdd18f",
  "d0b2d0b5d181d18cd095d181d182d18cd180d0b0d0b7d0b0d0bdd0b0d188d0b8d8a7d984d984d987",
  "d8a7d984d8aad98ad8acd985d98ad8b9d8aed8a7d8b5d8a9d8a7d984d8b0d98ad8b9d984d98ad987",
  "d8acd8afd98ad8afd8a7d984d8a2d986d8a7d984d8b1d8afd8aad8add983d985d8b5d981d8add8a9",
  "d983d8a7d986d8aad8a7d984d984d98ad98ad983d988d986d8b4d8a8d983d8a9d981d98ad987d8a7",
  "d8a8d986d8a7d8aad8add988d8a7d8a1d8a3d983d8abd8b1d8aed984d8a7d984d8a7d984d8add8a8",
  "d8afd984d98ad984d8afd8b1d988d8b3d8a7d8b6d8bad8b7d8aad983d988d986d987d986d8a7d983",
  "d8b3d8a7d8add8a9d986d8a7d8afd98ad8a7d984d8b7d8a8d8b9d984d98ad983d8b4d983d8b1d8a7",
  "d98ad985d983d986d985d986d987d8a7d8b4d8b1d983d8a9d8b1d8a6d98ad8b3d986d8b4d98ad8b7",
  "d985d8a7d8b0d8a7d8a7d984d981d986d8b4d8a8d8a7d8a8d8aad8b9d8a8d8b1d8b1d8add985d8a9",
  "d983d8a7d981d8a9d98ad982d988d984d985d8b1d983d8b2d983d984d985d8a9d8a3d8add985d8af",
  "d982d984d8a8d98ad98ad8b9d986d98ad8b5d988d8b1d8a9d8b7d8b1d98ad982d8b4d8a7d8b1d983",
  "d8acd988d8a7d984d8a3d8aed8b1d989d985d8b9d986d8a7d8a7d8a8d8add8abd8b9d8b1d988d8b6",
  "d8a8d8b4d983d984d985d8b3d8acd984d8a8d986d8a7d986d8aed8a7d984d8afd983d8aad8a7d8a8",
  "d983d984d98ad8a9d8a8d8afd988d986d8a3d98ad8b6d8a7d98ad988d8acd8afd981d8b1d98ad982",
  "d983d8aad8a8d8aad8a3d981d8b6d984d985d8b7d8a8d8aed8a7d983d8abd8b1d8a8d8a7d8b1d983",
  "d8a7d981d8b6d984d8a7d8add984d989d986d981d8b3d987d8a3d98ad8a7d985d8b1d8afd988d8af",
  "d8a3d986d987d8a7d8afd98ad986d8a7d8a7d984d8a7d986d985d8b9d8b1d8b6d8aad8b9d984d985",
  "d8afd8a7d8aed984d985d985d983d986000000000000000001000100010001000200020002000200",
  "04000400040004000001020304050607070605040302010008090a0b0c0d0e0f0f0e0d0c0b0a0908",
  "1011121314151617171615141312111018191a1b1c1d1e1f1f1e1d1c1b1a1918ffffffff00000000",
  "00000000ffffffff010000000200000002000000010000000100000003000000ffff000100000001",
  "0000ffff00010000000800080008000800000001000200030004000500060007"]

def nine : List String := [
  "7265736f7572636573636f756e74726965737175657374696f6e7365717569706d656e74636f6d6d756e697479",
  "617661696c61626c65686967686c696768744454442f7868746d6c6d61726b6574696e676b6e6f776c65646765",
  "736f6d657468696e67636f6e7461696e6572646972656374696f6e737562736372696265616476657274697365",
  "636861726163746572222076616c75653d223c2f73656c6563743e4175737472616c69612220636c6173733d22",
  "736974756174696f6e617574686f72697479666f6c6c6f77696e677072696d6172696c796f7065726174696f6e",
  "6368616c6c656e6765646576656c6f706564616e6f6e796d6f757366756e6374696f6e2066756e6374696f6e73",
  "636f6d70616e69657373747275637475726561677265656d656e7422207469746c653d22706f74656e7469616c",
  "656475636174696f6e617267756d656e74737365636f6e64617279636f707972696768746c616e677561676573",
  "6578636c7573697665636f6e646974696f6e3c2f666f726d3e0d0a73746174656d656e74617474656e74696f6e",
  "42696f6772617068797d20656c7365207b0a736f6c7574696f6e737768656e2074686520416e616c7974696373",
  "74656d706c6174657364616e6765726f7573736174656c6c697465646f63756d656e74737075626c6973686572",
  "696d706f7274616e7470726f746f74797065696e666c75656e636526726171756f3b3c2f656666656374697665",
  "67656e6572616c6c797472616e73666f726d62656175746966756c7472616e73706f72746f7267616e697a6564",
  "7075626c697368656470726f6d696e656e74756e74696c207468657468756d626e61696c4e6174696f6e616c20",
  "2e666f63757328293b6f76657220746865206d6967726174696f6e616e6e6f756e636564666f6f746572223e0a",
  "657863657074696f6e6c657373207468616e657870656e73697665666f726d6174696f6e6672616d65776f726b",
  "7465727269746f72796e6469636174696f6e63757272656e746c79636c6173734e616d6563726974696369736d",
  "747261646974696f6e656c73657768657265416c6578616e6465726170706f696e7465646d6174657269616c73",
  "62726f6164636173746d656e74696f6e6564616666696c696174653c2f6f7074696f6e3e74726561746d656e74",
  "646966666572656e742f64656661756c742e507265736964656e746f6e636c69636b3d2262696f677261706879",
  "6f74686572776973657065726d616e656e744672616ec3a7616973486f6c6c79776f6f64657870616e73696f6e",
  "7374616e64617264733c2f7374796c653e0a726564756374696f6e446563656d62657220707265666572726564",
  "43616d6272696467656f70706f6e656e7473427573696e65737320636f6e667573696f6e3e0a3c7469746c653e",
  "70726573656e7465646578706c61696e6564646f6573206e6f7420776f726c6477696465696e74657266616365",
  "706f736974696f6e736e65777370617065723c2f7461626c653e0a6d6f756e7461696e736c696b652074686520",
  "657373656e7469616c66696e616e6369616c73656c656374696f6e616374696f6e3d222f6162616e646f6e6564",
  "456475636174696f6e7061727365496e742873746162696c697479756e61626c6520746f3c2f7469746c653e0a",
  "72656c6174696f6e734e6f74652074686174656666696369656e74706572666f726d656474776f207965617273",
  "53696e6365207468657468657265666f726577726170706572223e616c7465726e617465696e63726561736564",
  "426174746c65206f66706572636569766564747279696e6720746f6e6563657373617279706f72747261796564",
  "656c656374696f6e73456c697a61626574683c2f696672616d653e646973636f76657279696e737572616e6365",
  "732e6c656e6774683b6c6567656e6461727947656f67726170687963616e646964617465636f72706f72617465",
  "736f6d6574696d657373657276696365732e696e686572697465643c2f7374726f6e673e436f6d6d756e697479",
  "72656c6967696f75736c6f636174696f6e73436f6d6d69747465656275696c64696e677374686520776f726c64",
  "6e6f206c6f6e676572626567696e6e696e677265666572656e636563616e6e6f742062656672657175656e6379",
  "7479706963616c6c79696e746f207468652072656c61746976653b7265636f7264696e67707265736964656e74",
  "696e697469616c6c79746563686e69717565746865206f7468657269742063616e2062656578697374656e6365",
  "756e6465726c696e65746869732074696d6574656c6570686f6e656974656d73636f7065707261637469636573",
  "616476616e74616765293b72657475726e20466f72206f7468657270726f766964696e6764656d6f6372616379",
  "626f74682074686520657874656e73697665737566666572696e67737570706f72746564636f6d707574657273",
  "2066756e6374696f6e70726163746963616c7361696420746861746974206d6179206265456e676c6973683c2f",
  "66726f6d20746865207363686564756c6564646f776e6c6f6164733c2f6c6162656c3e0a737573706563746564",
  "6d617267696e3a203073706972697475616c3c2f686561643e0a0a6d6963726f736f66746772616475616c6c79",
  "646973637573736564686520626563616d656578656375746976656a71756572792e6a73686f757365686f6c64",
  "636f6e6669726d65647075726368617365646c69746572616c6c7964657374726f796564757020746f20746865",
  "766172696174696f6e72656d61696e696e676974206973206e6f7463656e7475726965734a6170616e65736520",
  "616d6f6e6720746865636f6d706c65746564616c676f726974686d696e74657265737473726562656c6c696f6e",
  "756e646566696e6564656e636f7572616765726573697a61626c65696e766f6c76696e6773656e736974697665",
  "756e6976657273616c70726f766973696f6e28616c74686f756768666561747572696e67636f6e647563746564",
  "292c20776869636820636f6e74696e7565642d686561646572223e4665627275617279206e756d65726f757320",
  "6f766572666c6f773a636f6d706f6e656e74667261676d656e7473657863656c6c656e74636f6c7370616e3d22",
  "746563686e6963616c6e6561722074686520416476616e63656420736f75726365206f66657870726573736564",
  "486f6e67204b6f6e672046616365626f6f6b6d756c7469706c65206d656368616e69736d656c65766174696f6e",
  "6f6666656e736976653c2f666f726d3e0a0973706f6e736f726564646f63756d656e742e6f72202671756f743b",
  "74686572652061726574686f73652077686f6d6f76656d656e747370726f636573736573646966666963756c74",
  "7375626d69747465647265636f6d6d656e64636f6e76696e63656470726f6d6f74696e67222077696474683d22",
  "2e7265706c61636528636c6173736963616c636f616c6974696f6e6869732066697273746465636973696f6e73",
  "617373697374616e74696e6469636174656465766f6c7574696f6e2d7772617070657222656e6f75676820746f",
  "616c6f6e672074686564656c6976657265642d2d3e0d0a3c212d2d416d65726963616e2070726f746563746564",
  "4e6f76656d626572203c2f7374796c653e3c6675726e6974757265496e7465726e657420206f6e626c75723d22",
  "73757370656e646564726563697069656e746261736564206f6e204d6f72656f7665722c61626f6c6973686564",
  "636f6c6c656374656477657265206d616465656d6f74696f6e616c656d657267656e63796e6172726174697665",
  "6164766f636174657370783b626f72646572636f6d6d69747465646469723d226c747222656d706c6f79656573",
  "72657365617263682e2073656c6563746564737563636573736f72637573746f6d657273646973706c61796564",
  "53657074656d626572616464436c6173732846616365626f6f6b20737567676573746564616e64206c61746572",
  "6f7065726174696e67656c61626f72617465536f6d6574696d6573496e737469747574656365727461696e6c79",
  "696e7374616c6c6564666f6c6c6f776572734a65727573616c656d746865792068617665636f6d707574696e67",
  "67656e65726174656470726f76696e63657367756172616e7465656172626974726172797265636f676e697a65",
  "77616e74656420746f70783b77696474683a7468656f7279206f666265686176696f75725768696c6520746865",
  "657374696d61746564626567616e20746f20697420626563616d656d61676e69747564656d7573742068617665",
  "6d6f7265207468616e4469726563746f7279657874656e73696f6e7365637265746172796e61747572616c6c79",
  "6f6363757272696e677661726961626c6573676976656e20746865706c6174666f726d2e3c2f6c6162656c3e3c",
  "6661696c656420746f636f6d706f756e64736b696e6473206f6620736f63696574696573616c6f6e6773696465",
  "202d2d2667743b0a0a736f75746877657374746865207269676874726164696174696f6e6d6179206861766520",
  "756e6573636170652873706f6b656e20696e2220687265663d222f70726f6772616d6d656f6e6c792074686520",
  "636f6d652066726f6d6469726563746f727962757269656420696e612073696d696c6172746865792077657265",
  "3c2f666f6e743e3c2f4e6f7277656769616e73706563696669656470726f647563696e6770617373656e676572",
  "286e6577204461746574656d706f7261727966696374696f6e616c4166746572207468656571756174696f6e73",
  "646f776e6c6f61642e726567756c61726c79646576656c6f70657261626f7665207468656c696e6b656420746f",
  "7068656e6f6d656e61706572696f64206f66746f6f6c746970223e7375627374616e63656175746f6d61746963",
  "617370656374206f66416d6f6e6720746865636f6e6e6563746564657374696d6174657341697220466f726365",
  "73797374656d206f666f626a656374697665696d6d6564696174656d616b696e672069747061696e74696e6773",
  "636f6e717565726564617265207374696c6c70726f63656475726567726f777468206f66686561646564206279",
  "4575726f7065616e206469766973696f6e736d6f6c6563756c65736672616e6368697365696e74656e74696f6e",
  "6174747261637465646368696c64686f6f64616c736f207573656464656469636174656473696e6761706f7265",
  "646567726565206f66666174686572206f66636f6e666c696374733c2f613e3c2f703e0a63616d652066726f6d",
  "7765726520757365646e6f74652074686174726563656976696e674578656375746976656576656e206d6f7265",
  "61636365737320746f636f6d6d616e646572506f6c69746963616c6d7573696369616e7364656c6963696f7573",
  "707269736f6e657273616476656e74206f665554462d3822202f3e3c215b43444154415b223e436f6e74616374",
  "536f75746865726e206267636f6c6f723d22736572696573206f662e2049742077617320696e204575726f7065",
  "7065726d697474656476616c69646174652e617070656172696e676f6666696369616c73736572696f75736c79",
  "2d6c616e6775616765696e69746961746564657874656e64696e676c6f6e672d7465726d696e666c6174696f6e",
  "737563682074686174676574436f6f6b69656d61726b65642062793c2f627574746f6e3e696d706c656d656e74",
  "627574206974206973696e63726561736573646f776e2074686520726571756972696e67646570656e64656e74",
  "2d2d3e0a3c212d2d20696e74657276696577576974682074686520636f70696573206f66636f6e73656e737573",
  "776173206275696c7456656e657a75656c6128666f726d65726c79746865207374617465706572736f6e6e656c",
  "7374726174656769636661766f7572206f66696e76656e74696f6e57696b697065646961636f6e74696e656e74",
  "7669727475616c6c797768696368207761737072696e6369706c65436f6d706c657465206964656e746963616c",
  "73686f7720746861747072696d6974697665617761792066726f6d6d6f6c6563756c6172707265636973656c79",
  "646973736f6c766564556e6465722074686576657273696f6e3d223e266e6273703b3c2f497420697320746865",
  "20546869732069732077696c6c20686176656f7267616e69736d73736f6d652074696d65467269656472696368",
  "776173206669727374746865206f6e6c7920666163742074686174666f726d2069643d22707265636564696e67",
  "546563686e6963616c7068797369636973746f636375727320696e6e6176696761746f7273656374696f6e223e",
  "7370616e2069643d22736f7567687420746f62656c6f7720746865737572766976696e677d3c2f7374796c653e",
  "686973206465617468617320696e207468656361757365642062797061727469616c6c796578697374696e6720",
  "7573696e672074686577617320676976656e61206c697374206f666c6576656c73206f666e6f74696f6e206f66",
  "4f6666696369616c206469736d6973736564736369656e74697374726573656d626c65736475706c6963617465",
  "6578706c6f736976657265636f7665726564616c6c206f7468657267616c6c65726965737b70616464696e673a",
  "70656f706c65206f66726567696f6e206f666164647265737365736173736f6369617465696d6720616c743d22",
  "696e206d6f6465726e73686f756c642062656d6574686f64206f667265706f7274696e6774696d657374616d70",
  "6e656564656420746f746865204772656174726567617264696e677365656d656420746f766965776564206173",
  "696d70616374206f6e69646561207468617474686520576f726c64686569676874206f66657870616e64696e67",
  "54686573652061726563757272656e74223e6361726566756c6c796d61696e7461696e73636861726765206f66",
  "436c6173736963616c6164647265737365647072656469637465646f776e6572736869703c6469762069643d22",
  "7269676874223e0d0a7265736964656e63656c6561766520746865636f6e74656e74223e617265206f6674656e",
  "20207d2928293b0d0a70726f6261626c792050726f666573736f722d627574746f6e2220726573706f6e646564",
  "73617973207468617468616420746f206265706c6163656420696e48756e67617269616e737461747573206f66",
  "736572766573206173556e6976657273616c657865637574696f6e616767726567617465666f72207768696368",
  "696e66656374696f6e61677265656420746f686f77657665722c20706f70756c6172223e706c61636564206f6e",
  "636f6e737472756374656c6563746f72616c73796d626f6c206f66696e636c7564696e6772657475726e20746f",
  "61726368697465637443687269737469616e70726576696f7573206c6976696e6720696e65617369657220746f",
  "70726f666573736f720a266c743b212d2d20656666656374206f66616e616c79746963737761732074616b656e",
  "776865726520746865746f6f6b206f76657262656c69656620696e416672696b61616e73617320666172206173",
  "70726576656e746564776f726b207769746861207370656369616c3c6669656c647365744368726973746d6173",
  "5265747269657665640a0a496e20746865206261636b20696e746f6e6f727468656173746d6167617a696e6573",
  "3e3c7374726f6e673e636f6d6d6974746565676f7665726e696e6767726f757073206f6673746f72656420696e",
  "65737461626c697368612067656e6572616c6974732066697273747468656972206f776e706f70756c61746564",
  "616e206f626a65637443617269626265616e616c6c6f7720746865646973747269637473776973636f6e73696e",
  "6c6f636174696f6e2e3b2077696474683a20696e68616269746564536f6369616c6973744a616e756172792031",
  "3c2f666f6f7465723e73696d696c61726c7963686f696365206f667468652073616d6520737065636966696320",
  "627573696e657373205468652066697273742e6c656e6774683b2064657369726520746f6465616c2077697468",
  "73696e636520746865757365724167656e74636f6e636569766564696e6465782e7068706173202671756f743b",
  "656e6761676520696e726563656e746c792c6665772079656172737765726520616c736f0a3c686561643e0a3c",
  "656469746564206279617265206b6e6f776e63697469657320696e6163636573736b6579636f6e64656d6e6564",
  "616c736f206861766573657276696365732c66616d696c79206f665363686f6f6c206f66636f6e766572746564",
  "6e6174757265206f66206c616e67756167656d696e6973746572733c2f6f626a6563743e746865726520697320",
  "6120706f70756c617273657175656e6365736164766f6361746564546865792077657265616e79206f74686572",
  "6c6f636174696f6e3d656e746572207468656d756368206d6f72657265666c6563746564776173206e616d6564",
  "6f726967696e616c2061207479706963616c7768656e2074686579656e67696e65657273636f756c64206e6f74",
  "7265736964656e74737765646e65736461797468652074686972642070726f64756374734a616e756172792032",
  "77686174207468657961206365727461696e7265616374696f6e7370726f636573736f72616674657220686973",
  "746865206c61737420636f6e7461696e6564223e3c2f6469763e0a3c2f613e3c2f74643e646570656e64206f6e",
  "736561726368223e0a706965636573206f66636f6d706574696e675265666572656e636574656e6e6573736565",
  "7768696368206861732076657273696f6e3d3c2f7370616e3e203c3c2f6865616465723e676976657320746865",
  "686973746f7269616e76616c75653d22223e70616464696e673a30766965772074686174746f6765746865722c",
  "746865206d6f73742077617320666f756e64737562736574206f6661747461636b206f6e6368696c6472656e2c",
  "706f696e7473206f66706572736f6e616c20706f736974696f6e3a616c6c656765646c79436c6576656c616e64",
  "776173206c61746572616e6420616674657261726520676976656e776173207374696c6c7363726f6c6c696e67",
  "64657369676e206f666d616b6573207468656d756368206c657373416d65726963616e732e0a0a416674657220",
  "2c20627574207468654d757365756d206f666c6f75697369616e612866726f6d207468656d696e6e65736f7461",
  "7061727469636c6573612070726f63657373446f6d696e6963616e766f6c756d65206f6672657475726e696e67",
  "646566656e73697665303070787c726967686d6164652066726f6d6d6f7573656f76657222207374796c653d22",
  "737461746573206f66287768696368206973636f6e74696e7565734672616e636973636f6275696c64696e6720",
  "776974686f757420617769746820736f6d6577686f20776f756c646120666f726d206f66612070617274206f66",
  "6265666f72652069746b6e6f776e206173202053657276696365736c6f636174696f6e20616e64206f6674656e",
  "6d6561737572696e67616e6420697420697370617065726261636b76616c756573206f660d0a3c7469746c653e",
  "3d2077696e646f772e64657465726d696e6565722671756f743b20706c61796564206279616e64206561726c79",
  "3c2f63656e7465723e66726f6d2074686973746865207468726565706f77657220616e646f66202671756f743b",
  "696e6e657248544d4c3c6120687265663d22793a696e6c696e653b436875726368206f66746865206576656e74",
  "7665727920686967686f6666696369616c202d6865696768743a20636f6e74656e743d222f6367692d62696e2f",
  "746f20637265617465616672696b61616e736573706572616e746f6672616ec3a76169736c6174766965c5a175",
  "6c696574757669c5b3c48c65c5a174696e61c48d65c5a174696e61e0b984e0b897e0b8a2e697a5e69cace8aa9e",
  "e7ae80e4bd93e5ad97e7b981e9ab94e5ad97ed959ceab5adec96b4e4b8bae4bb80e4b988e8aea1e7ae97e69cba",
  "e7ac94e8aeb0e69cace8a88ee8ab96e58d80e69c8de58aa1e599a8e4ba92e88194e7bd91e688bfe59cb0e4baa7",
  "e4bfb1e4b990e983a8e587bae78988e7a4bee68e92e8a18ce6a69ce983a8e890bde6a0bce8bf9be4b880e6ada5",
  "e694afe4bb98e5ae9de9aa8ce8af81e7a081e5a794e59198e4bc9ae695b0e68daee5ba93e6b688e8b4b9e88085",
  "e58a9ee585ace5aea4e8aea8e8aebae58cbae6b7b1e59cb3e5b882e692ade694bee599a8e58c97e4baace5b882",
  "e5a4a7e5ada6e7949fe8b68ae69da5e8b68ae7aea1e79086e59198e4bfa1e681afe7bd91736572766963696f73",
  "617274c3ad63756c6f617267656e74696e6162617263656c6f6e616375616c71756965727075626c696361646f",
  "70726f647563746f73706f6cc3ad7469636172657370756573746177696b6970656469617369677569656e7465",
  "62c3ba737175656461636f6d756e696461647365677572696461647072696e636970616c70726567756e746173",
  "636f6e74656e69646f726573706f6e64657276656e657a75656c6170726f626c656d617364696369656d627265",
  "72656c616369c3b36e6e6f7669656d62726573696d696c6172657370726f796563746f7370726f6772616d6173",
  "696e7374697475746f616374697669646164656e6375656e74726165636f6e6f6dc3ad61696dc3a167656e6573",
  "636f6e7461637461726465736361726761726e656365736172696f6174656e6369c3b36e74656cc3a9666f6e6f",
  "636f6d697369c3b36e63616e63696f6e6573636170616369646164656e636f6e74726172616ec3a16c69736973",
  "6661766f7269746f7374c3a9726d696e6f7370726f76696e636961657469717565746173656c656d656e746f73",
  "66756e63696f6e6573726573756c7461646f636172c3a16374657270726f7069656461647072696e636970696f",
  "6e65636573696461646d756e69636970616c637265616369c3b36e64657363617267617370726573656e636961",
  "636f6d65726369616c6f70696e696f6e6573656a6572636963696f656469746f7269616c73616c616d616e6361",
  "676f6e7ac3a16c657a646f63756d656e746f70656cc3ad63756c6172656369656e74657367656e6572616c6573",
  "7461727261676f6e617072c3a163746963616e6f7665646164657370726f70756573746170616369656e746573",
  "74c3a9636e696361736f626a657469766f73636f6e746163746f73e0a4aee0a587e0a482e0a4b2e0a4bfe0a48f",
  "e0a4b9e0a588e0a482e0a497e0a4afe0a4bee0a4b8e0a4bee0a4a5e0a48fe0a4b5e0a482e0a4b0e0a4b9e0a587",
  "e0a495e0a58be0a488e0a495e0a581e0a49be0a4b0e0a4b9e0a4bee0a4ace0a4bee0a4a6e0a495e0a4b9e0a4be",
  "e0a4b8e0a4ade0a580e0a4b9e0a581e0a48fe0a4b0e0a4b9e0a580e0a4aee0a588e0a482e0a4a6e0a4bfe0a4a8",
  "e0a4ace0a4bee0a4a46469706c6f646f6373e0a4b8e0a4aee0a4afe0a4b0e0a582e0a4aae0a4a8e0a4bee0a4ae",
  "e0a4aae0a4a4e0a4bee0a4abe0a4bfe0a4b0e0a494e0a4b8e0a4a4e0a4a4e0a4b0e0a4b9e0a4b2e0a58be0a497",
  "e0a4b9e0a581e0a486e0a4ace0a4bee0a4b0e0a4a6e0a587e0a4b6e0a4b9e0a581e0a488e0a496e0a587e0a4b2",
  "e0a4afe0a4a6e0a4bfe0a495e0a4bee0a4aee0a4b5e0a587e0a4ace0a4a4e0a580e0a4a8e0a4ace0a580e0a49a",
  "e0a4aee0a58ce0a4a4e0a4b8e0a4bee0a4b2e0a4b2e0a587e0a496e0a49ce0a589e0a4ace0a4aee0a4a6e0a4a6",
  "e0a4a4e0a4a5e0a4bee0a4a8e0a4b9e0a580e0a4b6e0a4b9e0a4b0e0a485e0a4b2e0a497e0a495e0a4ade0a580",
  "e0a4a8e0a497e0a4b0e0a4aae0a4bee0a4b8e0a4b0e0a4bee0a4a4e0a495e0a4bfe0a48fe0a489e0a4b8e0a587",
  "e0a497e0a4afe0a580e0a4b9e0a582e0a481e0a486e0a497e0a587e0a49fe0a580e0a4aee0a496e0a58be0a49c",
  "e0a495e0a4bee0a4b0e0a485e0a4ade0a580e0a497e0a4afe0a587e0a4a4e0a581e0a4aee0a4b5e0a58be0a49f",
  "e0a4a6e0a587e0a482e0a485e0a497e0a4b0e0a490e0a4b8e0a587e0a4aee0a587e0a4b2e0a4b2e0a497e0a4be",
  "e0a4b9e0a4bee0a4b2e0a48ae0a4aae0a4b0e0a49ae0a4bee0a4b0e0a490e0a4b8e0a4bee0a4a6e0a587e0a4b0",
  "e0a49ce0a4bfe0a4b8e0a4a6e0a4bfe0a4b2e0a4ace0a482e0a4a6e0a4ace0a4a8e0a4bee0a4b9e0a582e0a482",
  "e0a4b2e0a4bee0a496e0a49ce0a580e0a4a4e0a4ace0a49fe0a4a8e0a4aee0a4bfe0a4b2e0a487e0a4b8e0a587",
  "e0a486e0a4a8e0a587e0a4a8e0a4afe0a4bee0a495e0a581e0a4b2e0a4b2e0a589e0a497e0a4ade0a4bee0a497",
  "e0a4b0e0a587e0a4b2e0a49ce0a497e0a4b9e0a4b0e0a4bee0a4aee0a4b2e0a497e0a587e0a4aae0a587e0a49c",
  "e0a4b9e0a4bee0a4a5e0a487e0a4b8e0a580e0a4b8e0a4b9e0a580e0a495e0a4b2e0a4bee0a4a0e0a580e0a495",
  "e0a4b9e0a4bee0a481e0a4a6e0a582e0a4b0e0a4a4e0a4b9e0a4a4e0a4b8e0a4bee0a4a4e0a4afe0a4bee0a4a6",
  "e0a486e0a4afe0a4bee0a4aae0a4bee0a495e0a495e0a58ce0a4a8e0a4b6e0a4bee0a4aee0a4a6e0a587e0a496",
  "e0a4afe0a4b9e0a580e0a4b0e0a4bee0a4afe0a496e0a581e0a4a6e0a4b2e0a497e0a580"]

def ten : List String := [
  "63617465676f72696573657870657269656e63653c2f7469746c653e0d0a436f7079726967687420",
  "6a617661736372697074636f6e646974696f6e7365766572797468696e673c7020636c6173733d22",
  "746563686e6f6c6f67796261636b67726f756e643c6120636c6173733d226d616e6167656d656e74",
  "26636f70793b203230316a6176615363726970746368617261637465727362726561646372756d62",
  "7468656d73656c766573686f72697a6f6e74616c676f7665726e6d656e7443616c69666f726e6961",
  "61637469766974696573646973636f76657265644e617669676174696f6e7472616e736974696f6e",
  "636f6e6e656374696f6e6e617669676174696f6e617070656172616e63653c2f7469746c653e3c6d",
  "636865636b626f782220746563686e697175657370726f74656374696f6e6170706172656e746c79",
  "61732077656c6c206173756e74272c202755412d7265736f6c7574696f6e6f7065726174696f6e73",
  "74656c65766973696f6e7472616e736c6174656457617368696e67746f6e6e6176696761746f722e",
  "203d2077696e646f772e696d7072657373696f6e266c743b62722667743b6c697465726174757265",
  "706f70756c6174696f6e6267636f6c6f723d2223657370656369616c6c7920636f6e74656e743d22",
  "70726f64756374696f6e6e6577736c657474657270726f70657274696573646566696e6974696f6e",
  "6c656164657273686970546563686e6f6c6f67795061726c69616d656e74636f6d70617269736f6e",
  "756c20636c6173733d222e696e6465784f662822636f6e636c7573696f6e64697363757373696f6e",
  "636f6d706f6e656e747362696f6c6f676963616c5265766f6c7574696f6e5f636f6e7461696e6572",
  "756e64657273746f6f646e6f7363726970743e3c7065726d697373696f6e65616368206f74686572",
  "61746d6f737068657265206f6e666f6375733d223c666f726d2069643d2270726f63657373696e67",
  "746869732e76616c756567656e65726174696f6e436f6e666572656e636573756273657175656e74",
  "77656c6c2d6b6e6f776e766172696174696f6e7372657075746174696f6e7068656e6f6d656e6f6e",
  "6469736369706c696e656c6f676f2e706e67222028646f63756d656e742c626f756e646172696573",
  "65787072657373696f6e736574746c656d656e744261636b67726f756e646f7574206f6620746865",
  "656e7465727072697365282268747470733a2220756e657363617065282270617373776f72642220",
  "64656d6f6372617469633c6120687265663d222f77726170706572223e0a6d656d62657273686970",
  "6c696e6775697374696370783b70616464696e677068696c6f736f706879617373697374616e6365",
  "756e6976657273697479666163696c69746965737265636f676e697a6564707265666572656e6365",
  "69662028747970656f666d61696e7461696e6564766f636162756c6172796879706f746865736973",
  "2e7375626d697428293b26616d703b6e6273703b616e6e6f746174696f6e626568696e6420746865",
  "466f756e646174696f6e7075626c697368657222617373756d7074696f6e696e74726f6475636564",
  "636f7272757074696f6e736369656e74697374736578706c696369746c79696e7374656164206f66",
  "64696d656e73696f6e73206f6e436c69636b3d22636f6e736964657265646465706172746d656e74",
  "6f636375706174696f6e736f6f6e206166746572696e766573746d656e7470726f6e6f756e636564",
  "6964656e7469666965646578706572696d656e744d616e6167656d656e7467656f67726170686963",
  "22206865696768743d226c696e6b2072656c3d222e7265706c616365282f64657072657373696f6e",
  "636f6e666572656e636570756e6973686d656e74656c696d696e61746564726573697374616e6365",
  "61646170746174696f6e6f70706f736974696f6e77656c6c206b6e6f776e737570706c656d656e74",
  "64657465726d696e6564683120636c6173733d223070783b6d617267696e6d656368616e6963616c",
  "7374617469737469637363656c65627261746564476f7665726e6d656e740a0a447572696e672074",
  "646576656c6f706572736172746966696369616c6571756976616c656e746f726967696e61746564",
  "436f6d6d697373696f6e6174746163686d656e743c7370616e2069643d2274686572652077657265",
  "4e656465726c616e64736265796f6e6420746865726567697374657265646a6f75726e616c697374",
  "6672657175656e746c79616c6c206f66207468656c616e673d22656e22203c2f7374796c653e0d0a",
  "6162736f6c7574653b20737570706f7274696e6765787472656d656c79206d61696e73747265616d",
  "3c2f7374726f6e673e20706f70756c6172697479656d706c6f796d656e743c2f7461626c653e0d0a",
  "20636f6c7370616e3d223c2f666f726d3e0a2020636f6e76657273696f6e61626f75742074686520",
  "3c2f703e3c2f6469763e696e746567726174656422206c616e673d22656e506f7274756775657365",
  "73756273746974757465696e646976696475616c696d706f737369626c656d756c74696d65646961",
  "616c6d6f737420616c6c707820736f6c6964202361706172742066726f6d7375626a65637420746f",
  "696e20456e676c697368637269746963697a656465786365707420666f7267756964656c696e6573",
  "6f726967696e616c6c7972656d61726b61626c65746865207365636f6e64683220636c6173733d22",
  "3c61207469746c653d2228696e636c7564696e67706172616d657465727370726f68696269746564",
  "3d2022687474703a2f2f64696374696f6e61727970657263657074696f6e7265766f6c7574696f6e",
  "666f756e646174696f6e70783b6865696768743a7375636365737366756c737570706f7274657273",
  "6d696c6c656e6e69756d68697320666174686572746865202671756f743b6e6f2d7265706561743b",
  "636f6d6d65726369616c696e647573747269616c656e636f757261676564616d6f756e74206f6620",
  "756e6f6666696369616c656666696369656e63795265666572656e636573636f6f7264696e617465",
  "646973636c61696d657265787065646974696f6e646576656c6f70696e6763616c63756c61746564",
  "73696d706c69666965646c65676974696d617465737562737472696e6728302220636c6173733d22",
  "636f6d706c6574656c79696c6c7573747261746566697665207965617273696e737472756d656e74",
  "5075626c697368696e67312220636c6173733d2270737963686f6c6f6779636f6e666964656e6365",
  "6e756d626572206f6620616273656e6365206f66666f6375736564206f6e6a6f696e656420746865",
  "7374727563747572657370726576696f75736c793e3c2f696672616d653e6f6e636520616761696e",
  "62757420726174686572696d6d696772616e74736f6620636f757273652c612067726f7570206f66",
  "4c697465726174757265556e6c696b65207468653c2f613e266e6273703b0a66756e6374696f6e20",
  "69742077617320746865436f6e76656e74696f6e6175746f6d6f62696c6550726f74657374616e74",
  "616767726573736976656166746572207468652053696d696c61726c792c22202f3e3c2f6469763e",
  "636f6c6c656374696f6e0d0a66756e6374696f6e7669736962696c69747974686520757365206f66",
  "766f6c756e746565727361747472616374696f6e756e6465722074686520746872656174656e6564",
  "2a3c215b43444154415b696d706f7274616e6365696e2067656e6572616c746865206c6174746572",
  "3c2f666f726d3e0a3c2f2e696e6465784f66282769203d20303b2069203c646966666572656e6365",
  "6465766f74656420746f747261646974696f6e7373656172636820666f72756c74696d6174656c79",
  "746f75726e616d656e7461747472696275746573736f2d63616c6c6564207d0a3c2f7374796c653e",
  "6576616c756174696f6e656d70686173697a656461636365737369626c653c2f73656374696f6e3e",
  "73756363657373696f6e616c6f6e6720776974684d65616e7768696c652c696e6475737472696573",
  "3c2f613e3c6272202f3e686173206265636f6d6561737065637473206f6654656c65766973696f6e",
  "73756666696369656e746261736b657462616c6c626f7468207369646573636f6e74696e75696e67",
  "616e2061727469636c653c696d6720616c743d22616476656e7475726573686973206d6f74686572",
  "6d616e636865737465727072696e6369706c6573706172746963756c6172636f6d6d656e74617279",
  "65666665637473206f666465636964656420746f223e3c7374726f6e673e7075626c697368657273",
  "4a6f75726e616c206f66646966666963756c7479666163696c697461746561636365707461626c65",
  "7374796c652e637373220966756e6374696f6e20696e6e6f766174696f6e3e436f70797269676874",
  "736974756174696f6e73776f756c642068617665627573696e657373657344696374696f6e617279",
  "73746174656d656e74736f6674656e207573656470657273697374656e74696e204a616e75617279",
  "636f6d70726973696e673c2f7469746c653e0a096469706c6f6d61746963636f6e7461696e696e67",
  "706572666f726d696e67657874656e73696f6e736d6179206e6f74206265636f6e63657074206f66",
  "206f6e636c69636b3d22497420697320616c736f66696e616e6369616c206d616b696e6720746865",
  "4c7578656d626f7572676164646974696f6e616c6172652063616c6c6564656e676167656420696e",
  "2273637269707422293b62757420697420776173656c656374726f6e69636f6e7375626d69743d22",
  "0a3c212d2d20456e6420656c656374726963616c6f6666696369616c6c7973756767657374696f6e",
  "746f70206f6620746865756e6c696b65207468654175737472616c69616e4f726967696e616c6c79",
  "7265666572656e6365730a3c2f686561643e0d0a7265636f676e69736564696e697469616c697a65",
  "6c696d6974656420746f416c6578616e647269617265746972656d656e74416476656e7475726573",
  "666f75722079656172730a0a266c743b212d2d20696e6372656173696e676465636f726174696f6e",
  "683320636c6173733d226f726967696e73206f666f626c69676174696f6e726567756c6174696f6e",
  "636c61737369666965642866756e6374696f6e28616476616e74616765736265696e672074686520",
  "686973746f7269616e733c62617365206872656672657065617465646c7977696c6c696e6720746f",
  "636f6d70617261626c6564657369676e617465646e6f6d696e6174696f6e66756e6374696f6e616c",
  "696e7369646520746865726576656c6174696f6e656e64206f66207468657320666f722074686520",
  "617574686f72697a65647265667573656420746f74616b6520706c6163656175746f6e6f6d6f7573",
  "636f6d70726f6d697365706f6c69746963616c2072657374617572616e7474776f206f6620746865",
  "466562727561727920327175616c697479206f667377666f626a6563742e756e6465727374616e64",
  "6e6561726c7920616c6c7772697474656e206279696e7465727669657773222077696474683d2231",
  "7769746864726177616c666c6f61743a6c656674697320757375616c6c7963616e64696461746573",
  "6e6577737061706572736d7973746572696f75734465706172746d656e7462657374206b6e6f776e",
  "7061726c69616d656e7473757070726573736564636f6e76656e69656e7472656d656d6265726564",
  "646966666572656e742073797374656d61746963686173206c656420746f70726f706167616e6461",
  "636f6e74726f6c6c6564696e666c75656e636573636572656d6f6e69616c70726f636c61696d6564",
  "50726f74656374696f6e6c6920636c6173733d22536369656e7469666963636c6173733d226e6f2d",
  "74726164656d61726b736d6f7265207468616e20776964657370726561644c696265726174696f6e",
  "746f6f6b20706c616365646179206f66207468656173206c6f6e67206173696d707269736f6e6564",
  "4164646974696f6e616c0a3c686561643e0a3c6d4c61626f7261746f72794e6f76656d6265722032",
  "657863657074696f6e73496e647573747269616c76617269657479206f66666c6f61743a206c6566",
  "447572696e67207468656173736573736d656e7468617665206265656e206465616c732077697468",
  "537461746973746963736f6363757272656e63652f756c3e3c2f6469763e636c656172666978223e",
  "746865207075626c69636d616e79207965617273776869636820776572656f7665722074696d652c",
  "73796e6f6e796d6f7573636f6e74656e74223e0a70726573756d61626c796869732066616d696c79",
  "757365724167656e742e756e6578706563746564696e636c7564696e67206368616c6c656e676564",
  "61206d696e6f72697479756e646566696e65642262656c6f6e677320746f74616b656e2066726f6d",
  "696e204f63746f626572706f736974696f6e3a207361696420746f20626572656c6967696f757320",
  "46656465726174696f6e20726f777370616e3d226f6e6c792061206665776d65616e742074686174",
  "6c656420746f207468652d2d3e0d0a3c646976203c6669656c647365743e41726368626973686f70",
  "20636c6173733d226e6f6265696e672075736564617070726f616368657370726976696c65676573",
  "6e6f7363726970743e0a726573756c747320696e6d61792062652074686545617374657220656767",
  "6d656368616e69736d73726561736f6e61626c65506f70756c6174696f6e436f6c6c656374696f6e",
  "73656c6563746564223e6e6f7363726970743e0d2f696e6465782e7068706172726976616c206f66",
  "2d6a7373646b2729293b6d616e6167656420746f696e636f6d706c65746563617375616c74696573",
  "636f6d706c6574696f6e43687269737469616e7353657074656d6265722061726974686d65746963",
  "70726f636564757265736d69676874206861766550726f64756374696f6e69742061707065617273",
  "5068696c6f736f706879667269656e64736869706c656164696e6720746f676976696e6720746865",
  "746f776172642074686567756172616e74656564646f63756d656e746564636f6c6f723a23303030",
  "766964656f2067616d65636f6d6d697373696f6e7265666c656374696e676368616e676520746865",
  "6173736f63696174656473616e732d73657269666f6e6b657970726573733b2070616464696e673a",
  "48652077617320746865756e6465726c79696e677479706963616c6c79202c20616e642074686520",
  "737263456c656d656e747375636365737369766573696e6365207468652073686f756c6420626520",
  "6e6574776f726b696e676163636f756e74696e67757365206f66207468656c6f776572207468616e",
  "73686f777320746861743c2f7370616e3e0a0909636f6d706c61696e7473636f6e74696e756f7573",
  "7175616e746974696573617374726f6e6f6d6572686520646964206e6f7464756520746f20697473",
  "6170706c69656420746f616e20617665726167656566666f72747320746f74686520667574757265",
  "617474656d707420746f5468657265666f72652c6361706162696c69747952657075626c6963616e",
  "77617320666f726d6564456c656374726f6e69636b696c6f6d65746572736368616c6c656e676573",
  "7075626c697368696e6774686520666f726d6572696e646967656e6f7573646972656374696f6e73",
  "73756273696469617279636f6e7370697261637964657461696c73206f66616e6420696e20746865",
  "6166666f726461626c657375627374616e636573726561736f6e20666f72636f6e76656e74696f6e",
  "6974656d747970653d226162736f6c7574656c79737570706f7365646c7972656d61696e65642061",
  "6174747261637469766574726176656c6c696e6773657061726174656c79666f6375736573206f6e",
  "656c656d656e746172796170706c696361626c65666f756e6420746861747374796c657368656574",
  "6d616e757363726970747374616e647320666f72206e6f2d72657065617428736f6d6574696d6573",
  "436f6d6d65726369616c696e20416d6572696361756e64657274616b656e71756172746572206f66",
  "616e206578616d706c65706572736f6e616c6c79696e6465782e7068703f3c2f627574746f6e3e0a",
  "70657263656e74616765626573742d6b6e6f776e6372656174696e67206122206469723d226c7472",
  "4c69657574656e616e740a3c6469762069643d227468657920776f756c646162696c697479206f66",
  "6d616465207570206f666e6f7465642074686174636c656172207468617461726775652074686174",
  "746f20616e6f746865726368696c6472656e2773707572706f7365206f66666f726d756c61746564",
  "62617365642075706f6e74686520726567696f6e7375626a656374206f6670617373656e67657273",
  "706f7373657373696f6e2e0a0a496e20746865204265666f72652074686561667465727761726473",
  "63757272656e746c79206163726f737320746865736369656e7469666963636f6d6d756e6974792e",
  "6361706974616c69736d696e204765726d616e7972696768742d77696e677468652073797374656d",
  "536f6369657479206f66706f6c6974696369616e646972656374696f6e3a77656e74206f6e20746f",
  "72656d6f76616c206f66204e657720596f726b2061706172746d656e7473696e6469636174696f6e",
  "647572696e6720746865756e6c65737320746865686973746f726963616c686164206265656e2061",
  "646566696e6974697665696e6772656469656e74617474656e64616e636543656e74657220666f72",
  "70726f6d696e656e6365726561647953746174657374726174656769657362757420696e20746865",
  "61732070617274206f66636f6e73746974757465636c61696d20746861746c61626f7261746f7279",
  "636f6d70617469626c656661696c757265206f662c207375636820617320626567616e2077697468",
  "7573696e672074686520746f2070726f7669646566656174757265206f6666726f6d207768696368",
  "2f2220636c6173733d2267656f6c6f676963616c7365766572616c206f6664656c69626572617465",
  "696d706f7274616e7420686f6c64732074686174696e672671756f743b2076616c69676e3d746f70",
  "746865204765726d616e6f757473696465206f666e65676f74696174656468697320636172656572",
  "73657061726174696f6e69643d227365617263687761732063616c6c656474686520666f75727468",
  "72656372656174696f6e6f74686572207468616e70726576656e74696f6e7768696c652074686520",
  "656475636174696f6e2c636f6e6e656374696e6761636375726174656c7977657265206275696c74",
  "776173206b696c6c656461677265656d656e74736d756368206d6f72652044756520746f20746865",
  "77696474683a20313030736f6d65206f746865724b696e67646f6d206f6674686520656e74697265",
  "66616d6f757320666f72746f20636f6e6e6563746f626a65637469766573746865204672656e6368",
  "70656f706c6520616e646665617475726564223e6973207361696420746f7374727563747572616c",
  "7265666572656e64756d6d6f7374206f6674656e612073657061726174652d3e0a3c646976206964",
  "204f6666696369616c20776f726c64776964652e617269612d6c6162656c74686520706c616e6574",
  "616e642069742077617364222076616c75653d226c6f6f6b696e6720617462656e6566696369616c",
  "61726520696e207468656d6f6e69746f72696e677265706f727465646c79746865206d6f6465726e",
  "776f726b696e67206f6e616c6c6f77656420746f77686572652074686520696e6e6f766174697665",
  "3c2f613e3c2f6469763e736f756e64747261636b736561726368466f726d74656e6420746f206265",
  "696e7075742069643d226f70656e696e67206f667265737472696374656461646f70746564206279",
  "61646472657373696e677468656f6c6f6769616e6d6574686f6473206f6676617269616e74206f66",
  "43687269737469616e2076657279206c617267656175746f6d6f7469766562792066617220746865",
  "72616e67652066726f6d70757273756974206f66666f6c6c6f772074686562726f7567687420746f",
  "696e20456e676c616e646167726565207468617461636375736564206f66636f6d65732066726f6d",
  "70726576656e74696e67646976207374796c653d686973206f72206865727472656d656e646f7573",
  "66726565646f6d206f66636f6e6365726e696e67302031656d2031656d3b4261736b657462616c6c",
  "2f7374796c652e637373616e206561726c6965726576656e2061667465722f22207469746c653d22",
  "2e636f6d2f696e64657874616b696e672074686570697474736275726768636f6e74656e74223e0d",
  "3c7363726970743e28667475726e6564206f7574686176696e67207468653c2f7370616e3e0d0a20",
  "6f63636173696f6e616c626563617573652069747374617274656420746f706879736963616c6c79",
  "3e3c2f6469763e0a20206372656174656420627943757272656e746c792c206267636f6c6f723d22",
  "746162696e6465783d22646973617374726f7573416e616c797469637320616c736f206861732061",
  "3e3c6469762069643d223c2f7374796c653e0a3c63616c6c656420666f7273696e67657220616e64",
  "2e737263203d20222f2f76696f6c6174696f6e737468697320706f696e74636f6e7374616e746c79",
  "6973206c6f63617465647265636f7264696e6773642066726f6d207468656e656465726c616e6473",
  "706f7274756775c3aa73d7a2d791d7a8d799d7aad981d8a7d8b1d8b3db8c6465736172726f6c6c6f",
  "636f6d656e746172696f65647563616369c3b36e7365707469656d6272657265676973747261646f",
  "64697265636369c3b36e75626963616369c3b36e7075626c69636964616472657370756573746173",
  "726573756c7461646f73696d706f7274616e746572657365727661646f73617274c3ad63756c6f73",
  "6469666572656e7465737369677569656e746573726570c3ba626c69636173697475616369c3b36e",
  "6d696e6973746572696f707269766163696461646469726563746f72696f666f726d616369c3b36e",
  "706f626c616369c3b36e707265736964656e7465636f6e74656e69646f7361636365736f72696f73",
  "746563686e6f72617469706572736f6e616c657363617465676f72c3ad61657370656369616c6573",
  "646973706f6e69626c6561637475616c696461647265666572656e63696176616c6c61646f6c6964",
  "6269626c696f7465636172656c6163696f6e657363616c656e646172696f706f6cc3ad7469636173",
  "616e746572696f726573646f63756d656e746f736e61747572616c657a616d6174657269616c6573",
  "6469666572656e63696165636f6ec3b36d6963617472616e73706f727465726f6472c3ad6775657a",
  "70617274696369706172656e6375656e7472616e64697363757369c3b36e65737472756374757261",
  "66756e64616369c3b36e6672656375656e7465737065726d616e656e7465746f74616c6d656e7465",
  "d0bcd0bed0b6d0bdd0bed0b1d183d0b4d0b5d182d0bcd0bed0b6d0b5d182d0b2d180d0b5d0bcd18f",
  "d182d0b0d0bad0b6d0b5d187d182d0bed0b1d18bd0b1d0bed0bbd0b5d0b5d0bed187d0b5d0bdd18c",
  "d18dd182d0bed0b3d0bed0bad0bed0b3d0b4d0b0d0bfd0bed181d0bbd0b5d0b2d181d0b5d0b3d0be",
  "d181d0b0d0b9d182d0b5d187d0b5d180d0b5d0b7d0bcd0bed0b3d183d182d181d0b0d0b9d182d0b0",
  "d0b6d0b8d0b7d0bdd0b8d0bcd0b5d0b6d0b4d183d0b1d183d0b4d183d182d09fd0bed0b8d181d0ba",
  "d0b7d0b4d0b5d181d18cd0b2d0b8d0b4d0b5d0bed181d0b2d18fd0b7d0b8d0bdd183d0b6d0bdd0be",
  "d181d0b2d0bed0b5d0b9d0bbd18ed0b4d0b5d0b9d0bfd0bed180d0bdd0bed0bcd0bdd0bed0b3d0be",
  "d0b4d0b5d182d0b5d0b9d181d0b2d0bed0b8d185d0bfd180d0b0d0b2d0b0d182d0b0d0bad0bed0b9",
  "d0bcd0b5d181d182d0bed0b8d0bcd0b5d0b5d182d0b6d0b8d0b7d0bdd18cd0bed0b4d0bdd0bed0b9",
  "d0bbd183d187d188d0b5d0bfd0b5d180d0b5d0b4d187d0b0d181d182d0b8d187d0b0d181d182d18c",
  "d180d0b0d0b1d0bed182d0bdd0bed0b2d18bd185d0bfd180d0b0d0b2d0bed181d0bed0b1d0bed0b9",
  "d0bfd0bed182d0bed0bcd0bcd0b5d0bdd0b5d0b5d187d0b8d181d0bbd0b5d0bdd0bed0b2d18bd0b5",
  "d183d181d0bbd183d0b3d0bed0bad0bed0bbd0bed0bdd0b0d0b7d0b0d0b4d182d0b0d0bad0bed0b5",
  "d182d0bed0b3d0b4d0b0d0bfd0bed187d182d0b8d09fd0bed181d0bbd0b5d182d0b0d0bad0b8d0b5",
  "d0bdd0bed0b2d18bd0b9d181d182d0bed0b8d182d182d0b0d0bad0b8d185d181d180d0b0d0b7d183",
  "d0a1d0b0d0bdd0bad182d184d0bed180d183d0bcd09ad0bed0b3d0b4d0b0d0bad0bdd0b8d0b3d0b8",
  "d181d0bbd0bed0b2d0b0d0bdd0b0d188d0b5d0b9d0bdd0b0d0b9d182d0b8d181d0b2d0bed0b8d0bc",
  "d181d0b2d18fd0b7d18cd0bbd18ed0b1d0bed0b9d187d0b0d181d182d0bed181d180d0b5d0b4d0b8",
  "d09ad180d0bed0bcd0b5d0a4d0bed180d183d0bcd180d18bd0bdd0bad0b5d181d182d0b0d0bbd0b8",
  "d0bfd0bed0b8d181d0bad182d18bd181d18fd187d0bcd0b5d181d18fd186d186d0b5d0bdd182d180",
  "d182d180d183d0b4d0b0d181d0b0d0bcd18bd185d180d18bd0bdd0bad0b0d09dd0bed0b2d18bd0b9",
  "d187d0b0d181d0bed0b2d0bcd0b5d181d182d0b0d184d0b8d0bbd18cd0bcd0bcd0b0d180d182d0b0",
  "d181d182d180d0b0d0bdd0bcd0b5d181d182d0b5d182d0b5d0bad181d182d0bdd0b0d188d0b8d185",
  "d0bcd0b8d0bdd183d182d0b8d0bcd0b5d0bdd0b8d0b8d0bcd0b5d18ed182d0bdd0bed0bcd0b5d180",
  "d0b3d0bed180d0bed0b4d181d0b0d0bcd0bed0bcd18dd182d0bed0bcd183d0bad0bed0bdd186d0b5",
  "d181d0b2d0bed0b5d0bcd0bad0b0d0bad0bed0b9d090d180d185d0b8d0b2d985d986d8aad8afd989",
  "d8a5d8b1d8b3d8a7d984d8b1d8b3d8a7d984d8a9d8a7d984d8b9d8a7d985d983d8aad8a8d987d8a7",
  "d8a8d8b1d8a7d985d8acd8a7d984d98ad988d985d8a7d984d8b5d988d8b1d8acd8afd98ad8afd8a9",
  "d8a7d984d8b9d8b6d988d8a5d8b6d8a7d981d8a9d8a7d984d982d8b3d985d8a7d984d8b9d8a7d8a8",
  "d8aad8add985d98ad984d985d984d981d8a7d8aad985d984d8aad982d989d8aad8b9d8afd98ad984",
  "d8a7d984d8b4d8b9d8b1d8a3d8aed8a8d8a7d8b1d8aad8b7d988d98ad8b1d8b9d984d98ad983d985",
  "d8a5d8b1d981d8a7d982d8b7d984d8a8d8a7d8aad8a7d984d984d8bad8a9d8aad8b1d8aad98ad8a8",
  "d8a7d984d986d8a7d8b3d8a7d984d8b4d98ad8aed985d986d8aad8afd98ad8a7d984d8b9d8b1d8a8",
  "d8a7d984d982d8b5d8b5d8a7d981d984d8a7d985d8b9d984d98ad987d8a7d8aad8add8afd98ad8ab",
  "d8a7d984d984d987d985d8a7d984d8b9d985d984d985d983d8aad8a8d8a9d98ad985d983d986d983",
  "d8a7d984d8b7d981d984d981d98ad8afd98ad988d8a5d8afd8a7d8b1d8a9d8aad8a7d8b1d98ad8ae",
  "d8a7d984d8b5d8add8a9d8aad8b3d8acd98ad984d8a7d984d988d982d8aad8b9d986d8afd985d8a7",
  "d985d8afd98ad986d8a9d8aad8b5d985d98ad985d8a3d8b1d8b4d98ad981d8a7d984d8b0d98ad986",
  "d8b9d8b1d8a8d98ad8a9d8a8d988d8a7d8a8d8a9d8a3d984d8b9d8a7d8a8d8a7d984d8b3d981d8b1",
  "d985d8b4d8a7d983d984d8aad8b9d8a7d984d989d8a7d984d8a3d988d984d8a7d984d8b3d986d8a9",
  "d8acd8a7d985d8b9d8a9d8a7d984d8b5d8add981d8a7d984d8afd98ad986d983d984d985d8a7d8aa",
  "d8a7d984d8aed8a7d8b5d8a7d984d985d984d981d8a3d8b9d8b6d8a7d8a1d983d8aad8a7d8a8d8a9",
  "d8a7d984d8aed98ad8b1d8b1d8b3d8a7d8a6d984d8a7d984d982d984d8a8d8a7d984d8a3d8afd8a8",
  "d985d982d8a7d8b7d8b9d985d8b1d8a7d8b3d984d985d986d8b7d982d8a9d8a7d984d983d8aad8a8",
  "d8a7d984d8b1d8acd984d8a7d8b4d8aad8b1d983d8a7d984d982d8afd985d98ad8b9d8b7d98ad983"]

end StreamCodec.Format.Brotli.Words
